import LedMachine.Proofs.Acceptance
import LedMachine.Proofs.Frame
import LedMachine.Session

/-!
# The counter stays in range

A machine of `n` cells keeps its counter and its entry point from `-n` to `n` through any
session of loads, steps, runs and resets, as long as no program it loads sets an entry point
below `-n`; when it has cells at all, its entry point stays below `n` (`counter_stays_in_range`).
`Machine.Ranged n` is that invariant, and `Session.Meets n` the machines such a session meets,
those between the steps of a run included.

A step moves the counter once at most, at the end of its instruction (`step_moves`): it leaves it
where it was, moves it just past the instruction after checking that the instruction's bytes lie
below `n`, sends it to an address it checked to lie below `n`, or to the entry point. `Lands` is
that move for an instruction with fixed operands (`execute_lands`); setting and clearing pixels
move past the pairs their count announces (`execute_pairs_lands`). Loading sets the entry point
only from the program's entry lines, which it refuses at `n` and above, and leaves the counter at
the entry point or where a line of the program set it; a reset sends the counter to the entry
point.

So the counter reaches `n` only by falling through the last cell: loads and resets leave it below
`n`, and a step that leaves it at `n` found it there or moved it past an instruction whose last
byte is the last cell (`MovesPast`). At the counter `n` a step with no wait pending only stops the
machine with the alarm "Program counter out of range"; with a wait pending it counts the wait down
instead (`step_at_end_counts_wait_down`).
-/

namespace LedMachine

namespace Opcode

/-- Every instruction takes a byte at least. -/
theorem width_pos (op : Opcode) (pairs : Nat) : 0 < op.width pairs := by
  unfold width
  split <;> omega

theorem width_of_fixed {op : Opcode} (fixed : op.takesPairs = false) (pairs : Nat) :
    op.width pairs = 1 + op.arity := by
  cases op <;> first | rfl | cases fixed

theorem arity_of_pairs {op : Opcode} (pairs : op.takesPairs = true) : op.arity = 1 := by
  cases op <;> first | rfl | cases pairs

end Opcode

namespace Machine

/-- The counter and the entry point of a machine of `n` cells lie from `-n` to `n`, the entry point
below `n` when there are cells at all, and its memory can be allocated. -/
structure Ranged (n : Int) (m : Machine) : Prop where
  size : m.size = n
  low : 0 ≤ n
  high : n ≤ Memory.allocationLimit
  entry : -n ≤ m.entry ∧ m.entry ≤ n
  pc : -n ≤ m.pc ∧ m.pc ≤ n
  /-- Loads, resets and loops send the counter to the entry point, which lies below the size. -/
  entryBelow : 0 < n → m.entry < n

/-- Keeping the size, the entry point and the counter: every operation of a step but its last
move does. -/
def steady : Frame where
  rel m t := t.size = m.size ∧ t.entry = m.entry ∧ t.pc = m.pc
  refl _ := ⟨rfl, rfl, rfl⟩
  trans first second :=
    ⟨second.1.trans first.1, second.2.1.trans first.2.1, second.2.2.trans first.2.2⟩
  ram _ _ := ⟨rfl, rfl, rfl⟩
  scratch _ _ := ⟨rfl, rfl, rfl⟩
  grid _ _ := ⟨rfl, rfl, rfl⟩

theorem Ranged.steady {n : Int} {m t : Machine} (ranged : m.Ranged n) (kept : steady.rel m t) :
    t.Ranged n := by
  obtain ⟨size, entry, pc⟩ := kept
  exact ⟨size.trans ranged.size, ranged.low, ranged.high, by rw [entry]; exact ranged.entry,
    by rw [pc]; exact ranged.pc, by rw [entry]; exact ranged.entryBelow⟩

theorem keeps_halt (a : Alarm) : Keeps steady.rel (halt a) :=
  keeps_modify fun _ => ⟨rfl, rfl, rfl⟩

/-! ## The one move of a step -/

/-- The counter of `t` lies just past the instruction at the counter of `m`: past its opcode and
its operands, and for setting and clearing pixels past the pairs its count announces. -/
def MovesPast (m t : Machine) : Prop :=
  ∃ (op : Opcode) (count : Nat), m.ram.get m.pc = .ok op.code ∧
    (op.takesPairs = true → m.ram.get (m.pc + 1) = .ok count) ∧ t.pc = m.pc + op.width count

/-- The move a step makes from `m` to `t`: the counter stays, goes just past the instruction but
not beyond the size, goes to an address below the size, or goes to the entry point. The size and
the entry point stay. -/
def Moves (m t : Machine) : Prop :=
  t.size = m.size ∧ t.entry = m.entry ∧
    (t.pc = m.pc ∨ m.MovesPast t ∧ t.pc ≤ m.size ∨ 0 ≤ t.pc ∧ t.pc < m.size ∨ t.pc = m.entry)

theorem moves_of_steady {m t : Machine} (kept : steady.rel m t) : Moves m t :=
  ⟨kept.1, kept.2.1, .inl kept.2.2⟩

/-- A move of a step from a machine in range stays in range. -/
theorem Ranged.moves {n : Int} {m t : Machine} (ranged : m.Ranged n) (moved : Moves m t) :
    t.Ranged n := by
  obtain ⟨size, entry, moves⟩ := moved
  have before := ranged.pc
  have sized := ranged.size
  refine ⟨size.trans ranged.size, ranged.low, ranged.high, by rw [entry]; exact ranged.entry, ?_,
    by rw [entry]; exact ranged.entryBelow⟩
  rcases moves with stays | ⟨⟨op, count, -, -, past⟩, within⟩ | ⟨zero, below⟩ | atEntry
  · rw [stays]
    exact before
  · -- forward, as every instruction takes a byte at least, and not beyond the size
    have wide := op.width_pos count
    omega
  · omega
  · rw [atEntry]
    exact ranged.entry

/-- Where an instruction with `k` bytes of fixed operands may leave the counter in a machine of
`n` cells whose programs start at `e`: where it was, just past the instruction, at an address
below `n`, or at `e`. The size and the entry point stay. -/
def Lands (n e : Int) (k : Nat) (m t : Machine) : Prop :=
  t.size = m.size ∧ t.entry = m.entry ∧
    (t.pc = m.pc ∨ t.pc = m.pc + k ∨ 0 ≤ t.pc ∧ t.pc < n ∨ t.pc = e)

section Lands

variable {n e : Int} {k : Nat} {α β : Type}

theorem lands_of_steady {m t : Machine} (kept : steady.rel m t) : Lands n e k m t := by
  obtain ⟨size, entry, pc⟩ := kept
  exact ⟨size, entry, .inl pc⟩

theorem steady_lands {m t u : Machine} (kept : steady.rel m t) (moved : Lands n e k t u) :
    Lands n e k m u := by
  obtain ⟨size, entry, pc⟩ := kept
  obtain ⟨size', entry', moves⟩ := moved
  rw [pc] at moves
  exact ⟨size'.trans size, entry'.trans entry, moves⟩

theorem lands_steady {m t u : Machine} (moved : Lands n e k m t) (kept : steady.rel t u) :
    Lands n e k m u := by
  obtain ⟨size, entry, moves⟩ := moved
  obtain ⟨size', entry', pc⟩ := kept
  rw [← pc] at moves
  exact ⟨size'.trans size, entry'.trans entry, moves⟩

/-- Operations that keep the counter, and then the move. -/
theorem Keeps.then_lands {x : MachineM α} {f : α → MachineM β} (first : Keeps steady.rel x)
    (rest : ∀ a, Keeps (Lands n e k) (f a)) : Keeps (Lands n e k) (x >>= f) :=
  first.seq rest steady_lands lands_of_steady

/-- The move, and then operations that keep the counter. -/
theorem Keeps.lands_then {x : MachineM α} {f : α → MachineM β} (first : Keeps (Lands n e k) x)
    (rest : ∀ a, Keeps steady.rel (f a)) : Keeps (Lands n e k) (x >>= f) :=
  first.seq rest lands_steady id

theorem lands_advance {j : Nat} (past : j = k) : Keeps (Lands n e k) (advance j) :=
  keeps_modify fun t => ⟨rfl, rfl, .inr (.inl (by dsimp only; omega))⟩

theorem lands_jumpTo {m : Machine} {a : Nat} (held : m.holds a = true) :
    Keeps (Lands m.size e k) (jumpTo a) :=
  keeps_modify fun _ =>
    ⟨rfl, rfl, .inr (.inr (.inl ⟨by dsimp only; omega, of_decide_eq_true held⟩))⟩

theorem lands_entry : Keeps (Lands n e k) (jumpTo e) :=
  keeps_modify fun _ => ⟨rfl, rfl, .inr (.inr (.inr rfl))⟩

/-- The end of an instruction that goes on: it moves the counter past itself. -/
theorem lands_advancing {j : Nat} (past : j = k) (b : Bool) :
    Keeps (Lands n e k) (advance j >>= fun _ => pure b) :=
  (lands_advance past).lands_then fun _ => keeps_pure b

/-- The end of an instruction that jumps to an address it checked. -/
theorem lands_jumping {m : Machine} {a : Nat} (held : m.holds a = true) :
    Keeps (Lands m.size e k) (jumpTo a >>= fun _ => pure false) :=
  (lands_jumpTo held).lands_then fun _ => keeps_pure false

/-- Halting ends an instruction without moving the counter. -/
theorem lands_halt (a : Alarm) (b : Bool) : Keeps (Lands n e k) (halt a >>= fun _ => pure b) :=
  ((keeps_halt a).bind fun _ => keeps_pure b).mono lands_of_steady

end Lands

/-- Painting pairs keeps the counter, and ends, if it ends well, just past the pairs: at its start
when there are none, and otherwise not beyond the size. -/
theorem paintPairs_ends (op : Opcode) (lit : Bool) :
    ∀ (count : Nat) (addr : Int) (m : Machine),
      Yields (paintPairs op lit count addr) m
        (fun r t => steady.rel m t ∧
          ∀ next, r = .ok next → next = addr + 2 * count ∧ (count = 0 ∨ next ≤ m.size))
        (fun _ => steady.rel m)
  | 0, addr, m => ⟨steady.refl m, fun _ same => by cases same; exact ⟨by omega, .inl rfl⟩⟩
  | count + 1, addr, m => by
    unfold paintPairs
    rw [yields_get_bind]
    by_cases short : m.size ≤ addr + 1
    · rw [if_pos short, yields_pure]
      exact ⟨steady.refl m, fun _ same => by cases same⟩
    rw [if_neg short, yields_cell_bind]
    refine ⟨fun _ _ => steady.refl m, fun x _ => ?_⟩
    rw [yields_cell_bind]
    refine ⟨fun _ _ => steady.refl m, fun y _ => ?_⟩
    by_cases onGrid : x < gridSide ∧ y < gridSide
    · rw [if_pos onGrid, yields_paint_bind]
      -- the rest of the pairs, from the painted machine, which has the size of this one
      refine (paintPairs_ends op lit count (addr + 2) _).mono
        (fun r t painted => ⟨steady.trans (steady.grid m _) painted.1, fun next same => ?_⟩)
        (fun _ _ kept => steady.trans (steady.grid m _) kept)
      obtain ⟨ended, within⟩ := painted.2 next same
      have fits : count = 0 ∨ next ≤ m.size := within
      exact ⟨by omega, .inr (by omega)⟩
    · rw [if_neg onGrid, yields_pure]
      exact ⟨steady.refl m, fun _ same => by cases same⟩

/-- Every instruction with fixed operands moves the counter once at most, as `Lands` allows for an
instruction of its length in this machine. -/
theorem execute_lands {op : Opcode} (fixed : op.takesPairs = false) (m : Machine) :
    Yields (execute op m.pc) m (fun _ => Lands m.size m.entry (op.arity + 1) m)
      (fun _ => Lands m.size m.entry (op.arity + 1) m) := by
  unfold execute
  rw [yields_get_bind]
  cases op <;> dsimp only
  case set | clear => cases fixed
  case wait =>
    exact ((keeps_cell _).then_lands fun _ =>
      (keeps_modify fun _ => by exact ⟨rfl, rfl, rfl⟩).then_lands fun _ =>
      lands_advancing (by decide) false) m
  case loop => exact (lands_entry.lands_then fun _ => keeps_pure false) m
  case setAll | setNone =>
    exact ((keeps_modify fun _ => by exact ⟨rfl, rfl, rfl⟩).then_lands fun _ =>
      lands_advancing (by decide) false) m
  case store =>
    exact ((keeps_cell _).then_lands fun _ => (keeps_cell _).then_lands fun _ =>
      Keeps.ite (fun _ => (keeps_store _ _).then_lands fun _ => lands_advancing (by decide) false)
        (fun _ => lands_halt _ false)) m
  case load =>
    exact ((keeps_cell _).then_lands fun _ =>
      Keeps.ite (fun _ => (keeps_cell _).then_lands fun _ => (keeps_paint _ _ _).then_lands fun _ =>
          lands_advancing (by decide) false)
        (fun _ => lands_halt _ false)) m
  case jump =>
    exact ((keeps_cell _).then_lands fun _ =>
      Keeps.ite (fun held => lands_jumping held) (fun _ => lands_halt _ false)) m
  case jumpIf =>
    exact ((keeps_cell _).then_lands fun _ => (keeps_cell _).then_lands fun _ =>
      Keeps.ite (fun held => (keeps_cell _).then_lands fun _ =>
          Keeps.ite (fun _ => by exact lands_jumping (Bool.and_eq_true_iff.mp held).1)
            (fun _ => lands_advancing (by decide) false))
        (fun _ => lands_halt _ false)) m
  case scratchStore =>
    exact ((keeps_cell _).then_lands fun _ => (keeps_cell _).then_lands fun _ =>
      Keeps.ite (fun _ => (keeps_storeScratch _ _).then_lands fun _ =>
          lands_advancing (by decide) true)
        (fun _ => lands_halt _ false)) m
  case scratchLoad =>
    exact ((keeps_cell _).then_lands fun _ => (keeps_cell _).then_lands fun _ =>
      Keeps.ite (fun _ => (keeps_scratchCell _).then_lands fun _ =>
          (keeps_storeValue _ _).then_lands fun _ => lands_advancing (by decide) false)
        (fun _ => lands_halt _ false)) m
  case scratchAdd =>
    exact ((keeps_cell _).then_lands fun _ => (keeps_cell _).then_lands fun _ =>
      (keeps_cell _).then_lands fun _ =>
      Keeps.ite (fun _ => (keeps_scratchCell _).then_lands fun _ =>
          (keeps_scratchCell _).then_lands fun _ => (keeps_liftFault _).then_lands fun _ =>
          (keeps_liftFault _).then_lands fun _ => (keeps_storeScratch _ _).then_lands fun _ =>
          lands_advancing (by decide) true)
        (fun _ => lands_halt _ false)) m
  case scratchCopy =>
    exact ((keeps_cell _).then_lands fun _ => (keeps_cell _).then_lands fun _ =>
      Keeps.ite (fun _ => (keeps_cell _).then_lands fun _ =>
          (keeps_storeScratch _ _).then_lands fun _ => lands_advancing (by decide) true)
        (fun _ => lands_halt _ false)) m
  case scratchJumpIf =>
    exact ((keeps_cell _).then_lands fun _ => (keeps_cell _).then_lands fun _ =>
      Keeps.ite (fun held => (keeps_scratchCell _).then_lands fun _ =>
          (keeps_liftFault _).then_lands fun _ =>
          Keeps.ite (fun _ => by exact lands_jumping (Bool.and_eq_true_iff.mp held).1)
            (fun _ => lands_advancing (by decide) false))
        (fun _ => lands_halt _ false)) m
  case add | bitAnd | bitOr | bitXor | sub =>
    exact ((keeps_cell _).then_lands fun _ => (keeps_cell _).then_lands fun _ =>
      (keeps_cell _).then_lands fun _ =>
      Keeps.ite (fun _ => (keeps_cell _).then_lands fun _ => (keeps_cell _).then_lands fun _ =>
          (keeps_store _ _).then_lands fun _ => lands_advancing (by decide) false)
        (fun _ => lands_halt _ false)) m
  case bitNot | shiftLeft | shiftRight =>
    exact ((keeps_cell _).then_lands fun _ => (keeps_cell _).then_lands fun _ =>
      Keeps.ite (fun _ => (keeps_cell _).then_lands fun _ => (keeps_store _ _).then_lands fun _ =>
          lands_advancing (by decide) false)
        (fun _ => lands_halt _ false)) m

/-- Setting and clearing pixels move the counter just past the pairs their count announces, all of
them within the memory, or leave it where it was when a pair is bad. -/
theorem execute_pairs_lands {op : Opcode} (pairs : op.takesPairs = true) (m : Machine)
    (fits : m.pc + 1 < m.size) :
    Yields (execute op m.pc) m
      (fun _ t => t.size = m.size ∧ t.entry = m.entry ∧ (t.pc = m.pc ∨
        ∃ count, m.ram.get (m.pc + 1) = .ok count ∧ t.pc = m.pc + op.width count ∧
          t.pc ≤ m.size))
      (fun _ => steady.rel m) := by
  unfold execute
  rw [yields_get_bind]
  cases op <;> simp only [Opcode.takesPairs, Bool.false_eq_true] at pairs <;> dsimp only
  all_goals
    rw [yields_cell_bind]
    refine ⟨fun _ _ => steady.refl m, fun count counted => ?_⟩
    rw [yields_bind]
    refine (paintPairs_ends _ _ count (m.pc + 2) m).mono (fun r t painted => ?_)
      (fun _ _ kept => kept)
    obtain ⟨⟨size, entry, pc⟩, ended⟩ := painted
    cases r with
    | ok next =>
      rw [yields_jumpTo_bind, yields_pure]
      obtain ⟨past, within⟩ := ended next rfl
      refine ⟨size, entry, .inr ⟨count, by simpa using counted, ?_, ?_⟩⟩
      · simp only [Opcode.width]
        omega
      · dsimp only
        omega
    | error a =>
      rw [yields_halt_bind, yields_pure]
      exact ⟨size, entry, .inl pc⟩

/-- A step moves the counter once at most, as `Moves` allows: an instruction with fixed operands
lands past them after the step checked that they lie below the size, and setting and clearing
pixels move past their pairs. -/
theorem step_moves (m : Machine) : Yields step m (fun _ => Moves m) (fun _ => Moves m) := by
  unfold step
  rw [yields_get_bind]
  by_cases waiting : 0 < m.delay
  · rw [if_pos waiting, yields_set_bind, yields_pure]
    exact moves_of_steady ⟨rfl, rfl, rfl⟩
  rw [if_neg waiting]
  by_cases beyond : m.size ≤ m.pc
  · rw [if_pos beyond, yields_halt_bind, yields_pure]
    exact moves_of_steady ⟨rfl, rfl, rfl⟩
  rw [if_neg beyond, yields_cell_bind]
  refine ⟨fun _ _ => moves_of_steady (steady.refl m), fun code read => ?_⟩
  by_cases blank : code = 0
  · rw [if_pos blank, yields_set_bind, yields_pure]
    exact moves_of_steady ⟨rfl, rfl, rfl⟩
  rw [if_neg blank]
  cases known : Opcode.ofCode? code with
  | none =>
    dsimp only
    rw [yields_halt_bind, yields_pure]
    exact moves_of_steady ⟨rfl, rfl, rfl⟩
  | some op =>
    dsimp only
    obtain rfl := Opcode.code_of_ofCode? known
    by_cases short : m.size ≤ m.pc + op.arity
    · rw [if_pos short, yields_halt_bind, yields_pure]
      exact moves_of_steady ⟨rfl, rfl, rfl⟩
    rw [if_neg short]
    cases pairs : op.takesPairs
    · -- the operands were checked to lie below the size, so the move past them stays there too
      have past : ∀ t, Lands m.size m.entry (op.arity + 1) m t → Moves m t := by
        intro t moved
        obtain ⟨size, entry, moves⟩ := moved
        refine ⟨size, entry, ?_⟩
        rcases moves with stays | advanced | jumped | looped
        · exact .inl stays
        · refine .inr (.inl ⟨⟨op, 0, read, fun takes => absurd takes (by rw [pairs]; decide), ?_⟩,
            by omega⟩)
          rw [advanced, Opcode.width_of_fixed pairs]
          omega
        · exact .inr (.inr (.inl jumped))
        · exact .inr (.inr (.inr looped))
      exact (execute_lands pairs m).mono (fun _ t => past t) (fun _ t => past t)
    · have fits : m.pc + 1 < m.size := by
        rw [Opcode.arity_of_pairs pairs] at short
        omega
      refine (execute_pairs_lands pairs m fits).mono (fun _ t moved => ?_)
        (fun _ _ kept => moves_of_steady kept)
      obtain ⟨size, entry, stays | ⟨count, counted, past, within⟩⟩ := moved
      · exact ⟨size, entry, .inl stays⟩
      · exact ⟨size, entry, .inr (.inl ⟨⟨op, count, read, fun _ => counted, past⟩, within⟩)⟩

/-- A step from a machine in range leaves it in range, whether it returns or fails. -/
theorem step_ranged {n : Int} {m : Machine} (ranged : m.Ranged n) :
    Yields step m (fun _ => Ranged n) (fun _ => Ranged n) :=
  (step_moves m).mono (fun _ _ moved => ranged.moves moved) (fun _ _ moved => ranged.moves moved)

/-- In range, a step leaves the counter at the size only if it found it there or moved it past an
instruction whose last byte is the last cell: jumps go below the size, and loops to the entry
point, which lies below it when there are cells. -/
theorem Ranged.step_reaches_end {n : Int} {m : Machine} (ranged : m.Ranged n) :
    Yields step m (fun _ t => t.pc = n → m.pc = n ∨ m.MovesPast t)
      (fun _ t => t.pc = n → m.pc = n ∨ m.MovesPast t) := by
  have reach : ∀ t, Moves m t → t.pc = n → m.pc = n ∨ m.MovesPast t := by
    intro t moved atEnd
    obtain ⟨-, -, moves⟩ := moved
    have sized := ranged.size
    rcases moves with stays | ⟨past, -⟩ | ⟨-, below⟩ | atEntry
    · exact .inl (stays ▸ atEnd)
    · exact .inr past
    · omega
    · -- with cells, the entry point lies below the size; with none, the counter stays at zero
      have before := ranged.pc
      by_cases empty : n = 0
      · exact .inl (by omega)
      · have entered := ranged.entryBelow (by have := ranged.low; omega)
        omega
  exact (step_moves m).mono (fun _ t => reach t) (fun _ t => reach t)

section Ends

variable {ok : Bool → Machine → Prop} {err : Fault → Machine → Prop} {m : Machine}

/-- A step with a wait under way counts it down and does nothing else. -/
theorem yields_step_waiting (waiting : 0 < m.delay) :
    Yields step m ok err ↔
      ok false { m with delay := m.delay - 1,
                        activeDelay := if m.delay - 1 = 0 then 0 else m.activeDelay } := by
  unfold step
  rw [yields_get_bind, if_pos waiting, yields_set_bind, yields_pure]

/-- At the end of memory, with no wait pending, a step only stops the machine with the alarm
"Program counter out of range". -/
theorem yields_step_beyond (idle : m.delay ≤ 0) (beyond : m.size ≤ m.pc) :
    Yields step m ok err ↔
      ok false { m with running := false, alarm := some .counterOutOfRange } := by
  unfold step
  rw [yields_get_bind, if_neg (by omega), if_pos beyond, yields_halt_bind, yields_pure]

end Ends

/-! ## Loading and resetting -/

theorem Ranged.cleared {n : Int} {m : Machine} (ranged : m.Ranged n) : m.cleared.Ranged n :=
  ⟨ranged.size, ranged.low, ranged.high, ranged.entry, ranged.entry, ranged.entryBelow⟩

theorem reset_ranged {n : Int} {m : Machine} (ranged : m.Ranged n) :
    Yields reset m (fun _ => Ranged n) (fun _ => Ranged n) := by
  have low : 0 ≤ m.size := by rw [ranged.size]; exact ranged.low
  have high : m.size ≤ Memory.allocationLimit := by rw [ranged.size]; exact ranged.high
  rw [← bind_pure reset, yields_reset_bind m low high, yields_pure]
  exact ranged.cleared

/-- Loading keeps the size, and leaves the entry point and the counter at the entry point it found
or at an entry point of the program. -/
theorem load_at_entries {m : Machine} (L : List String) (low : 0 ≤ m.size)
    (high : m.size ≤ Memory.allocationLimit) :
    Yields (load L) m
      (fun _ t => t.size = m.size ∧ t.entry ∈ m.entry :: (Source.assemble m.size L).entries ∧
        t.pc ∈ m.entry :: (Source.assemble m.size L).entries)
      (fun _ _ => False) := by
  obtain ⟨cells, small⟩ := cleared_cells low high
  have follows := Loader.lines_follow 1 L ⟨m.cleared, 0⟩ cells small
  rcases run : Loader.lines 1 L ⟨m.cleared, 0⟩ with ⟨l, failure⟩
  rw [run] at follows
  have entered : l.machine.entry ∈ m.entry :: (Source.assemble m.size L).entries := by
    rw [follows.entry]
    exact List.mem_of_getLast? List.getLast?_cons
  cases failure with
  | none =>
    apply Yields.of_run_ok (run_load low high run)
    exact ⟨follows.size, entered, entered⟩
  | some f =>
    obtain ⟨line, e⟩ := f
    apply Yields.of_run_ok (run_load low high run)
    -- the counter is the entry point of the cleared machine or one that a line set
    have left : l.machine.pc ∈ m.entry :: (Source.assemble m.size L).entries := by
      rcases List.mem_cons.mp follows.pc with same | later
      · rw [same]
        exact List.mem_cons_self
      · exact later
    exact ⟨follows.size, entered, left⟩

/-- Loading a program whose entry points lie at or above `-n` leaves a machine in range: the
loader refuses entry points at `n` and above. -/
theorem load_ranged {n : Int} {m : Machine} {L : List String} (ranged : m.Ranged n)
    (entries : ∀ v ∈ (Source.assemble n L).entries, -n ≤ v) :
    Yields (load L) m (fun _ => Ranged n) (fun _ => Ranged n) := by
  have sized := ranged.size
  have low : 0 ≤ m.size := by rw [sized]; exact ranged.low
  have high : m.size ≤ Memory.allocationLimit := by rw [sized]; exact ranged.high
  -- every entry point the machine can be left at lies in range
  have inRange : ∀ v ∈ m.entry :: (Source.assemble m.size L).entries,
      (-n ≤ v ∧ v ≤ n) ∧ (0 < n → v < n) := by
    intro v mem
    rcases List.mem_cons.mp mem with same | later
    · rw [same]
      exact ⟨ranged.entry, ranged.entryBelow⟩
    · rw [sized] at later
      have below := Source.mem_entries_layout later
      exact ⟨⟨entries v later, by omega⟩, fun _ => below⟩
  refine (load_at_entries L low high).mono (fun _ t placed => ?_) (fun _ _ => False.elim)
  obtain ⟨size, entered, left⟩ := placed
  exact ⟨size.trans sized, ranged.low, ranged.high, (inRange _ entered).1, (inRange _ left).1,
    (inRange _ entered).2⟩

end Machine

namespace Memory

theorem alloc_within {n : Int} {r : Memory} (allocated : alloc n = .ok r) :
    0 ≤ n ∧ n ≤ allocationLimit := by
  unfold alloc at allocated
  split at allocated
  · cases allocated
  · split at allocated
    · cases allocated
    · split at allocated
      · cases allocated
      · omega

end Memory

namespace Session

/-! ## Sessions -/

section Keeping

variable {α β : Type} {P : Machine → Prop}

theorem yields_onMachine_bind (op : MachineM α) (f : α → SessionM β) {s : Session}
    {ok : β → Session → Prop} {err : Fault → Session → Prop} :
    Yields (onMachine op >>= f) s ok err ↔
      Yields op s.machine (fun a m => Yields (f a) { s with machine := m } ok err)
        (fun e m => err e { s with machine := m }) := by
  unfold Yields onMachine
  simp only [EStateM.run, bind, EStateM.bind]
  cases op s.machine <;> exact Iff.rfl

/-- Saving the scratchpad leaves the machine alone, whether the file can be written or not. -/
theorem yields_saveScratch {s : Session} (kept : P s.machine) :
    Yields saveScratch s (fun _ t => P t.machine) (fun _ t => P t.machine) := by
  unfold saveScratch
  rw [yields_get_bind]
  split
  · exact kept
  · exact kept

/-- A request carried out keeps a property of sessions that what it prints does not touch, if its
operation keeps the property, fault or not. -/
theorem perform_holds {s : Session} {Q : Session → Prop} {r : Request}
    (printless : ∀ t, Q t → Q { t with printed := "" })
    (kept : Yields (handle r) { s with printed := "" } (fun _ => Q) (fun _ => Q)) :
    Q (s.perform r).1 := by
  unfold perform
  unfold Yields at kept
  split <;> rename_i run <;> rw [run] at kept <;> exact printless _ kept

/-- A request carried out keeps what its operation keeps of the machine, fault or not. -/
theorem perform_keeps {s : Session} {r : Request}
    (kept : Yields (handle r) { s with printed := "" } (fun _ t => P t.machine)
      (fun _ t => P t.machine)) :
    P (s.perform r).1.machine :=
  perform_holds (fun _ kept => kept) kept

/-- What a step keeps, a run of steps keeps, however many it makes. -/
theorem yields_steps_of_step {Q : Session → Prop}
    (stepping : ∀ s, Q s → Yields step s (fun _ => Q) (fun _ => Q)) :
    ∀ (fuel done : Nat) (s : Session), Q s → Yields (steps fuel done) s (fun _ => Q) (fun _ => Q)
  | 0, _, _, kept => kept
  | fuel + 1, done, s, kept => by
    unfold steps
    rw [yields_get_bind]
    split
    · exact kept
    · rw [yields_bind]
      exact (stepping s kept).mono
        (fun _ t stepped => yields_steps_of_step stepping fuel (done + 1) t stepped)
        (fun _ _ stepped => stepped)

variable (stepping : ∀ m, P m → Yields Machine.step m (fun _ => P) (fun _ => P))
include stepping

theorem yields_step {s : Session} (kept : P s.machine) :
    Yields step s (fun _ t => P t.machine) (fun _ t => P t.machine) := by
  unfold step
  rw [yields_onMachine_bind]
  refine (stepping s.machine kept).mono (fun _ _ stepped => ?_) (fun _ _ stepped => stepped)
  split
  · exact yields_saveScratch stepped
  · exact stepped

theorem yields_run (starting : ∀ m, P m → P { m with running := true }) (limit : Int)
    {s : Session} (kept : P s.machine) :
    Yields (run limit) s (fun _ t => P t.machine) (fun _ t => P t.machine) := by
  unfold run
  rw [yields_modify_bind]
  exact yields_steps_of_step (fun _ kept => yields_step stepping kept) _ 0 _ (starting _ kept)

end Keeping

/-- The sessions a new machine of `n` cells goes through when it loads programs whose entry points
lie at or above `-n`, steps, runs and is reset. -/
inductive Reaches (n : Int) : Session → Prop
  | start {s : Session} : Session.start n = .ok s → Reaches n s
  | load {s : Session} {L : List String} : Reaches n s →
      (∀ v ∈ (Source.assemble n L).entries, -n ≤ v) → Reaches n (s.perform (.load L)).1
  | step {s : Session} : Reaches n s → Reaches n (s.perform .step).1
  | run {s : Session} {limit : Int} : Reaches n s → Reaches n (s.perform (.run limit)).1
  | reset {s : Session} : Reaches n s → Reaches n (s.perform .reset).1

/-- The machines that a session of a machine of `n` cells meets: the machine of every session it
reaches, and the machines between the steps of a run, which starts the machine and steps it. -/
inductive Meets (n : Int) : Machine → Prop
  | reached {s : Session} : s.Reaches n → Meets n s.machine
  | started {m : Machine} : Meets n m → Meets n { m with running := true }
  | stepped {m t : Machine} {saved : Bool} : Meets n m → Machine.step.run m = .ok saved t →
      Meets n t

theorem start_ranged {n : Int} {s : Session} (started : Session.start n = .ok s) :
    s.machine.Ranged n := by
  unfold Session.start Machine.create at started
  cases allocated : Memory.alloc n with
  | error f =>
    rw [allocated] at started
    cases started
  | ok ram =>
    rw [allocated] at started
    cases started
    obtain ⟨low, high⟩ := Memory.alloc_within allocated
    exact ⟨rfl, low, high, ⟨by dsimp only; omega, by dsimp only; omega⟩,
      ⟨by dsimp only; omega, by dsimp only; omega⟩, fun positive => positive⟩

theorem Reaches.ranged {n : Int} {s : Session} (reached : s.Reaches n) : s.machine.Ranged n := by
  induction reached with
  | start started => exact start_ranged started
  | load _ entries ranged =>
    apply perform_keeps
    rw [handle, yields_onMachine_bind]
    exact (Machine.load_ranged ranged entries).mono (fun _ _ kept => kept) (fun _ _ kept => kept)
  | step _ ranged =>
    apply perform_keeps
    rw [handle, yields_bind]
    exact Yields.mono (yields_step (fun _ => Machine.step_ranged) ranged) (fun _ _ kept => kept)
      (fun _ _ kept => kept)
  | run _ ranged =>
    apply perform_keeps
    rw [handle, yields_bind]
    exact Yields.mono (yields_run (fun _ => Machine.step_ranged)
      (fun _ kept => kept.steady ⟨rfl, rfl, rfl⟩) _ ranged) (fun _ _ kept => kept)
      (fun _ _ kept => kept)
  | reset _ ranged =>
    apply perform_keeps
    rw [handle, yields_onMachine_bind]
    exact (Machine.reset_ranged ranged).mono (fun _ _ kept => kept) (fun _ _ kept => kept)

/-- Every machine a session meets is in range: by induction on how the session met it, each move
a load, a reset, the start of a run or a step. -/
theorem Meets.ranged {n : Int} {m : Machine} (met : Meets n m) : m.Ranged n := by
  induction met with
  | reached reached => exact reached.ranged
  | started _ ranged => exact ranged.steady ⟨rfl, rfl, rfl⟩
  | stepped _ run ranged => exact (Machine.step_ranged ranged).of_ok run

/-- Through any session of loads of programs whose entry points lie at or above `-n`, steps, runs
and resets, every machine of `n` cells it meets keeps its counter and its entry point from `-n` to
`n`. The counter reaches `n` only by falling through the last cell: when there are cells, loads
and resets leave it below `n`, and a step that leaves it at `n` found it there or moved it past an
instruction whose last byte is the last cell. At the counter `n` a step with no wait pending only
stops the machine with the alarm "Program counter out of range"; with a wait pending it only
counts the wait down. -/
theorem counter_stays_in_range {n : Int} {m : Machine} (met : Meets n m) :
    m.size = n ∧ (-n ≤ m.entry ∧ m.entry ≤ n) ∧ (-n ≤ m.pc ∧ m.pc ≤ n) ∧
      (0 < n →
        (∀ L, Yields (Machine.load L) m (fun _ t => t.pc < n) (fun _ t => t.pc < n)) ∧
        Yields Machine.reset m (fun _ t => t.pc < n) (fun _ t => t.pc < n)) ∧
      Yields Machine.step m (fun _ t => t.pc = n → m.pc = n ∨ m.MovesPast t)
        (fun _ t => t.pc = n → m.pc = n ∨ m.MovesPast t) ∧
      (m.pc = n → m.delay ≤ 0 → Machine.step.run m =
        .ok false { m with running := false, alarm := some .counterOutOfRange }) ∧
      (m.pc = n → 0 < m.delay → Machine.step.run m =
        .ok false { m with delay := m.delay - 1,
                           activeDelay := if m.delay - 1 = 0 then 0 else m.activeDelay }) := by
  have ranged := met.ranged
  have sized := ranged.size
  -- loads and resets leave the counter at an entry point, and these lie below the size
  have placed : 0 < n →
      (∀ L, Yields (Machine.load L) m (fun _ t => t.pc < n) (fun _ t => t.pc < n)) ∧
        Yields Machine.reset m (fun _ t => t.pc < n) (fun _ t => t.pc < n) := by
    intro positive
    have low : 0 ≤ m.size := by omega
    have high : m.size ≤ Memory.allocationLimit := by rw [sized]; exact ranged.high
    have entered := ranged.entryBelow positive
    refine ⟨fun L => (Machine.load_at_entries L low high).mono (fun _ t loaded => ?_)
      (fun _ _ => False.elim), ?_⟩
    · rcases List.mem_cons.mp loaded.2.2 with same | later
      · omega
      · have below := Source.mem_entries_layout later
        omega
    · rw [← bind_pure Machine.reset, Machine.yields_reset_bind m low high, yields_pure]
      exact entered
  refine ⟨sized, ranged.entry, ranged.pc, placed, ranged.step_reaches_end, fun atEnd idle => ?_,
    fun _ waiting => ?_⟩
  · exact Yields.run_eq ((Machine.yields_step_beyond idle (by omega)).mpr ⟨rfl, rfl⟩)
  · exact Yields.run_eq ((Machine.yields_step_waiting waiting).mpr ⟨rfl, rfl⟩)

theorem counter_stays_in_range_sample :
    ∃ m : Machine, Meets 2 m ∧ m.pc = 2 ∧
      m.size = 2 ∧ (-2 ≤ m.entry ∧ m.entry ≤ 2) ∧ (-2 ≤ m.pc ∧ m.pc ≤ 2) ∧
      (0 < (2 : Int) →
        (∀ L, Yields (Machine.load L) m (fun _ t => t.pc < 2) (fun _ t => t.pc < 2)) ∧
        Yields Machine.reset m (fun _ t => t.pc < 2) (fun _ t => t.pc < 2)) ∧
      Yields Machine.step m (fun _ t => t.pc = 2 → m.pc = 2 ∨ m.MovesPast t)
        (fun _ t => t.pc = 2 → m.pc = 2 ∨ m.MovesPast t) ∧
      (m.pc = 2 → m.delay ≤ 0 → Machine.step.run m =
        .ok false { m with running := false, alarm := some .counterOutOfRange }) ∧
      (m.pc = 2 → 0 < m.delay → Machine.step.run m =
        .ok false { m with delay := m.delay - 1,
                           activeDelay := if m.delay - 1 = 0 then 0 else m.activeDelay }) := by
  have reached := Reaches.step (@Reaches.load 2 _ ["WAIT 3"] (Reaches.start rfl)
    (by decide +kernel))
  exact ⟨_, .reached reached, by decide +kernel, counter_stays_in_range (.reached reached)⟩

/-- At the end of memory a step with a wait pending counts the wait down and raises no alarm: a
machine of two cells that has just started "WAIT 3" stands at the counter 2. -/
theorem step_at_end_counts_wait_down :
    ∃ s : Session, s.Reaches 2 ∧ s.machine.pc = 2 ∧ s.machine.alarm = none ∧
      ∃ t, Machine.step.run s.machine = .ok false t ∧ t.alarm = none ∧ t.delay = 2 := by
  have reached := Reaches.step (@Reaches.load 2 _ ["WAIT 3"] (Reaches.start rfl)
    (by decide +kernel))
  refine ⟨_, reached, by decide +kernel, by decide +kernel, ?_⟩
  apply Exists.intro
  refine ⟨?_, ?_, ?_⟩
  -- the wait is counted down, and that is all
  · exact Yields.run_eq ((Machine.yields_step_waiting (by decide +kernel)).mpr ⟨rfl, rfl⟩)
  all_goals decide +kernel

end Session

end LedMachine
