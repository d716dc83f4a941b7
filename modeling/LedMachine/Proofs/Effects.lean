import LedMachine.Proofs.Frame
import LedMachine.Session

/-!
# What a step may change

A step counts a wait down, or carries out one instruction: it reads, writes the memory, the grid
or the scratchpad, starts a wait, and last moves the counter or halts. A `Track` is a relation
between machines that every part of that keeps but the write of the scratchpad: it holds from a
machine to itself, composes, and survives writes to the memory and the grid, moves of the
counter, halts and the start of a wait of at most 255 steps.

`execute_tracks` and `step_tracks` say once what every instruction and every step may do to a
track: keep it up to the scratchpad, and keep it wholly when they ask for no save. Only the
three instructions that write the scratchpad ask for one. The invariants of the timing and of
the scratchpad file are instances.

`Session.Runs` is the set of sessions that a run of requests reaches from a first session, for
any filter of the requests it may make.
-/

namespace LedMachine

namespace Memory

/-- Every cell holds a byte. -/
theorem get_lt {m : Memory} {i : Int} {b : Nat} (read : m.get i = .ok b) : b < 256 := by
  unfold get at read
  split at read
  · cases read
  · split at read
    · cases read
      exact UInt8.toNat_lt _
    · cases read

end Memory

namespace Machine

/-- A relation between machines kept by every part of a step but the write of the scratchpad: a
write frame that survives moves of the counter, halts and the start of a wait. -/
structure Track extends WriteFrame where
  pc : ∀ m (pc : Int), rel m { m with pc }
  halt : ∀ m (alarm : Option Alarm), rel m { m with running := false, alarm }
  wait : ∀ m (n : Nat), n < 256 → rel m { m with delay := n, activeDelay := n }

namespace Track

variable (T : Track)

/-- What an outcome that asks for a save or not keeps of a track: all of it but the scratchpad,
and all of it when it asks for no save. -/
def Kept (m : Machine) (saved : Bool) (t : Machine) : Prop :=
  (∃ scratch, T.rel m { t with scratch }) ∧ (saved = false → T.rel m t)

/-- Every outcome of `x`, from any machine, keeps the track as far as it asks for no save. -/
def Tracks (x : MachineM Bool) : Prop :=
  ∀ m, Yields x m (T.Kept m) (fun _ => T.rel m)

variable {α : Type}

theorem Kept.of_rel {T : Track} {m t : Machine} (saved : Bool) (kept : T.rel m t) :
    T.Kept m saved t :=
  ⟨⟨t.scratch, kept⟩, fun _ => kept⟩

theorem Kept.after {T : Track} {m t u : Machine} {saved : Bool} (first : T.rel m t)
    (rest : T.Kept t saved u) :
    T.Kept m saved u :=
  ⟨(rest.1.imp fun _ => T.trans first), fun no => T.trans first (rest.2 no)⟩

/-! ## The parts of an instruction -/

theorem keeps_advance (n : Nat) : Keeps T.rel (advance n) :=
  keeps_modify fun t => T.pc t _

theorem keeps_jumpTo (a : Int) : Keeps T.rel (jumpTo a) :=
  keeps_modify fun t => T.pc t a

theorem keeps_halt (a : Alarm) : Keeps T.rel (Machine.halt a) :=
  keeps_modify fun t => T.halt t (some a)

theorem keeps_paintPairs (op : Opcode) (lit : Bool) :
    ∀ (count : Nat) (addr : Int), Keeps T.rel (paintPairs op lit count addr)
  | 0, _ => keeps_pure _
  | count + 1, addr => by
    intro m
    unfold paintPairs
    rw [yields_get_bind]
    split
    · exact T.refl m
    -- two reads, then a pixel painted and the rest of the pairs, or the alarm returned
    exact (Keeps.bind (keeps_cell _) fun _ => Keeps.bind (keeps_cell _) fun _ =>
      Keeps.ite
        (fun _ => Keeps.bind (keeps_paint _ _ _) fun _ => keeps_paintPairs op lit count _)
        (fun _ => keeps_pure _)) m

/-- The end of an instruction that fails: it halts with its alarm. -/
theorem keeps_halting (a : Alarm) : Keeps T.rel (Machine.halt a >>= fun _ => pure false) :=
  Keeps.bind (T.keeps_halt a) fun _ => keeps_pure false

/-- The end of an instruction that goes on: it moves the counter past itself. -/
theorem keeps_advancing (n : Nat) : Keeps T.rel (advance n >>= fun _ => pure false) :=
  Keeps.bind (T.keeps_advance n) fun _ => keeps_pure false

/-- The end of an instruction that jumps. -/
theorem keeps_jumping (a : Int) : Keeps T.rel (jumpTo a >>= fun _ => pure false) :=
  Keeps.bind (T.keeps_jumpTo a) fun _ => keeps_pure false

/-! ## Outcomes that may ask for a save -/

theorem Tracks.of_keeps {T : Track} {x : MachineM Bool} (kept : Keeps T.rel x) : T.Tracks x :=
  fun m => (kept m).mono (fun saved _ => Kept.of_rel saved) (fun _ _ => id)

theorem Tracks.bind {T : Track} {x : MachineM α} {f : α → MachineM Bool} (first : Keeps T.rel x)
    (rest : ∀ a, T.Tracks (f a)) : T.Tracks (x >>= f) := by
  intro m
  rw [yields_bind]
  exact (first m).mono (fun a t before => (rest a t).mono (fun _ _ => Kept.after before)
    (fun _ _ => T.trans before)) (fun _ _ => id)

theorem Tracks.ite {T : Track} {c : Prop} [Decidable c] {x y : MachineM Bool} (yes : c → T.Tracks x)
    (no : ¬c → T.Tracks y) : T.Tracks (if c then x else y) := by
  by_cases hc : c
  · simpa only [if_pos hc] using yes hc
  · simpa only [if_neg hc] using no hc

/-- Writing the scratchpad, moving on and asking for a save keeps the track up to the
scratchpad. -/
theorem tracks_save {T : Track} (i : Int) (v : Value) (n : Nat) :
    T.Tracks (storeScratch i v >>= fun _ => advance n >>= fun _ => pure true) := by
  intro m
  rw [yields_storeScratch_bind]
  refine ⟨fun _ _ => T.refl m, fun scratch _ => ?_⟩
  rw [yields_advance_bind, yields_pure]
  -- with the old scratchpad back, only the counter has moved
  exact ⟨⟨m.scratch, T.pc m _⟩, fun no => by cases no⟩

end Track

section Instructions

-- The operands of a step are bytes read as integers. Runs are taken apart here by the rules of
-- an outcome only: opened by unfolding, a run on a read byte would be evaluated in full.
attribute [local irreducible] Yields

variable {T : Track}

open Track in
/-- Every instruction keeps a track up to the scratchpad, and keeps it wholly unless it wrote the
scratchpad and asks for a save. -/
theorem execute_tracks (op : Opcode) (pc : Int) : T.Tracks (execute op pc) := by
  intro m
  unfold execute
  rw [yields_get_bind]
  cases op <;> dsimp only
  case set | clear =>
    exact (Tracks.bind (keeps_cell _) fun _ => Tracks.bind (T.keeps_paintPairs _ _ _ _) fun r =>
      Tracks.of_keeps (by
        cases r with
        | ok next => exact T.keeps_jumping next
        | error a => exact T.keeps_halting a)) m
  case wait =>
    -- the length of the wait is a byte read from memory
    rw [yields_cell_bind]
    refine ⟨fun _ _ => T.refl m, fun n read => ?_⟩
    exact Tracks.of_keeps (Keeps.bind (keeps_modify fun t => T.wait t n (Memory.get_lt read))
      fun _ => T.keeps_advancing 2) m
  case loop => exact Tracks.of_keeps (T.keeps_jumping _) m
  case setAll | setNone =>
    exact Tracks.of_keeps (Keeps.bind (keeps_modify fun t => T.grid t _) fun _ =>
      T.keeps_advancing 1) m
  case store =>
    exact Tracks.of_keeps (Keeps.bind (keeps_cell _) fun _ =>
      Keeps.bind (keeps_cell _) fun _ =>
      Keeps.ite (fun _ => Keeps.bind (keeps_store _ _) fun _ => T.keeps_advancing 3)
        (fun _ => T.keeps_halting _)) m
  case load =>
    exact Tracks.of_keeps (Keeps.bind (keeps_cell _) fun _ =>
      Keeps.ite (fun _ => Keeps.bind (keeps_cell _) fun _ =>
          Keeps.bind (keeps_paint _ _ _) fun _ => T.keeps_advancing 2)
        (fun _ => T.keeps_halting _)) m
  case jump =>
    exact Tracks.of_keeps (Keeps.bind (keeps_cell _) fun _ =>
      Keeps.ite (fun _ => T.keeps_jumping _) (fun _ => T.keeps_halting _)) m
  case jumpIf =>
    exact Tracks.of_keeps (Keeps.bind (keeps_cell _) fun _ =>
      Keeps.bind (keeps_cell _) fun _ =>
      Keeps.ite (fun _ => Keeps.bind (keeps_cell _) fun _ =>
          Keeps.ite (fun _ => T.keeps_jumping _) (fun _ => T.keeps_advancing 3))
        (fun _ => T.keeps_halting _)) m
  case scratchStore =>
    exact (Tracks.bind (keeps_cell _) fun _ => Tracks.bind (keeps_cell _) fun _ =>
      Tracks.ite (fun _ => tracks_save _ _ 3)
        (fun _ => Tracks.of_keeps (T.keeps_halting _))) m
  case scratchLoad =>
    exact Tracks.of_keeps (Keeps.bind (keeps_cell _) fun _ =>
      Keeps.bind (keeps_cell _) fun _ =>
      Keeps.ite (fun _ => Keeps.bind (keeps_scratchCell _) fun _ =>
          Keeps.bind (keeps_storeValue _ _) fun _ => T.keeps_advancing 3)
        (fun _ => T.keeps_halting _)) m
  case scratchAdd =>
    exact (Tracks.bind (keeps_cell _) fun _ => Tracks.bind (keeps_cell _) fun _ =>
      Tracks.bind (keeps_cell _) fun _ =>
      Tracks.ite (fun _ => Tracks.bind (keeps_scratchCell _) fun _ =>
          Tracks.bind (keeps_scratchCell _) fun _ => Tracks.bind (keeps_liftFault _) fun _ =>
          Tracks.bind (keeps_liftFault _) fun _ => tracks_save _ _ 4)
        (fun _ => Tracks.of_keeps (T.keeps_halting _))) m
  case scratchCopy =>
    exact (Tracks.bind (keeps_cell _) fun _ => Tracks.bind (keeps_cell _) fun _ =>
      Tracks.ite (fun _ => Tracks.bind (keeps_cell _) fun _ => tracks_save _ _ 3)
        (fun _ => Tracks.of_keeps (T.keeps_halting _))) m
  case scratchJumpIf =>
    exact Tracks.of_keeps (Keeps.bind (keeps_cell _) fun _ =>
      Keeps.bind (keeps_cell _) fun _ =>
      Keeps.ite (fun _ => Keeps.bind (keeps_scratchCell _) fun _ =>
          Keeps.bind (keeps_liftFault _) fun _ =>
          Keeps.ite (fun _ => T.keeps_jumping _) (fun _ => T.keeps_advancing 3))
        (fun _ => T.keeps_halting _)) m
  case add | bitAnd | bitOr | bitXor | sub =>
    exact Tracks.of_keeps (Keeps.bind (keeps_cell _) fun _ =>
      Keeps.bind (keeps_cell _) fun _ =>
      Keeps.bind (keeps_cell _) fun _ =>
      Keeps.ite (fun _ => Keeps.bind (keeps_cell _) fun _ =>
          Keeps.bind (keeps_cell _) fun _ =>
          Keeps.bind (keeps_store _ _) fun _ => T.keeps_advancing 4)
        (fun _ => T.keeps_halting _)) m
  case bitNot | shiftLeft | shiftRight =>
    exact Tracks.of_keeps (Keeps.bind (keeps_cell _) fun _ =>
      Keeps.bind (keeps_cell _) fun _ =>
      Keeps.ite (fun _ => Keeps.bind (keeps_cell _) fun _ =>
          Keeps.bind (keeps_store _ _) fun _ =>
          T.keeps_advancing 3)
        (fun _ => T.keeps_halting _)) m

/-- A step keeps a track as an instruction does, if counting a wait down keeps it too. -/
theorem step_tracks
    (counts : ∀ m, 0 < m.delay →
      T.rel m { m with delay := m.delay - 1,
                       activeDelay := if m.delay - 1 = 0 then 0 else m.activeDelay }) :
    T.Tracks step := by
  intro m
  unfold step
  rw [yields_get_bind]
  by_cases waiting : 0 < m.delay
  · rw [if_pos waiting, yields_set_bind, yields_pure]
    exact Track.Kept.of_rel false (counts m waiting)
  rw [if_neg waiting]
  by_cases beyond : m.size ≤ m.pc
  · rw [if_pos beyond, yields_halt_bind, yields_pure]
    exact Track.Kept.of_rel false (T.halt m _)
  rw [if_neg beyond, yields_cell_bind]
  refine ⟨fun _ _ => T.refl m, fun code _ => ?_⟩
  by_cases blank : code = 0
  · rw [if_pos blank, yields_set_bind, yields_pure]
    exact Track.Kept.of_rel false (T.halt m m.alarm)
  rw [if_neg blank]
  cases Opcode.ofCode? code with
  | none =>
    dsimp only
    rw [yields_halt_bind, yields_pure]
    exact Track.Kept.of_rel false (T.halt m _)
  | some op =>
    dsimp only
    by_cases short : m.size ≤ m.pc + op.arity
    · rw [if_pos short, yields_halt_bind, yields_pure]
      exact Track.Kept.of_rel false (T.halt m _)
    rw [if_neg short]
    exact execute_tracks op m.pc m

end Instructions

end Machine

namespace Session

/-- The sessions that requests which `admits` lets through lead to from a session that `first`
holds of. -/
inductive Runs (first : Session → Prop) (admits : Request → Bool) : Session → Prop
  | start {s : Session} : first s → Runs first admits s
  | next {s : Session} {r : Request} : Runs first admits s → admits r = true →
      Runs first admits (s.perform r).1

end Session

end LedMachine
