import LedMachine.Proofs.Counter

/-!
# What loading remembers

Loading reads and writes only part of the machine: its memory, line map, entry point and
counter, checked against its size, with the load pointer beside them. A `Loader.Simulation` is a
relation between loaders that relates only loaders agreeing on what loading reads, and that every
change loading makes keeps; loaders it relates load every program alike, line by line
(`Loader.lines_simulate`). Two such relations are used: loaders that differ at most in what
loading never touches, the scratchpad, the wait and its length, the running flag, the alarm and
the grid (`Loader.adopting`), and loaders that differ in the entry point and the counter as well
(`Loader.restarting`).

Loading starts with a reset, which keeps the entry point. So two machines of one size load a
program alike, but for the entry point and the counter: a program without an entry line starts
where the machine's last program did (`Machine.load_alike`). The entry point after loading is
the last one the program set, or the machine's own (`Machine.load_entry`), and a program that is
accepted is in place after one load: loading it again changes nothing (`Machine.load_again`).
-/

namespace LedMachine

namespace Memory

/-- A memory that can be allocated is zeros. -/
theorem eq_zeros_of_alloc {n : Int} {r : Memory} (allocated : alloc n = .ok r) :
    r = zeros n.toNat := by
  unfold alloc at allocated
  split at allocated
  · cases allocated
  · split at allocated
    · cases allocated
    · split at allocated
      · cases allocated
      · cases allocated
        rfl

end Memory

namespace Loader

/-- The loader with what loading never touches taken from `u`: the scratchpad, the wait and its
length, the running flag, the alarm and the grid. -/
def adopt (l : Loader) (u : Machine) : Loader :=
  { l with
    machine.scratch := u.scratch
    machine.delay := u.delay
    machine.activeDelay := u.activeDelay
    machine.running := u.running
    machine.alarm := u.alarm
    machine.grid := u.grid }

@[simp]
theorem adopt_self (l : Loader) : l.adopt l.machine = l := rfl

/-! ## Steps of loading run side by side -/

/-- Two outcomes of a step of loading that agree: the same value, or the same error, and loaders
related by `R`. -/
def Agree {α : Type} (R : Loader → Loader → Prop) :
    EStateM.Result LineError Loader α → EStateM.Result LineError Loader α → Prop
  | .ok a l₁, .ok b l₂ => a = b ∧ R l₁ l₂
  | .error e l₁, .error f l₂ => e = f ∧ R l₁ l₂
  | _, _ => False

/-- A step of loading whose outcomes from loaders related by `R` agree. -/
def Respects {α : Type} (R : Loader → Loader → Prop) (x : LoadM α) : Prop :=
  ∀ l₁ l₂, R l₁ l₂ → Agree R (x.run l₁) (x.run l₂)

section Respects

variable {α β : Type} {R : Loader → Loader → Prop}

theorem respects_pure (a : α) : Respects R (pure a) :=
  fun _ _ related => ⟨rfl, related⟩

theorem respects_throw (e : LineError) : Respects R (throw e : LoadM α) :=
  fun _ _ related => ⟨rfl, related⟩

/-- A failure ends the step, whatever was to follow it. -/
theorem respects_throw_bind (e : LineError) (f : α → LoadM β) : Respects R (throw e >>= f) :=
  fun _ _ related => ⟨rfl, related⟩

theorem Respects.bind {x : LoadM α} {f : α → LoadM β} (first : Respects R x)
    (rest : ∀ a, Respects R (f a)) : Respects R (x >>= f) := by
  intro l₁ l₂ related
  have agree := first l₁ l₂ related
  simp only [EStateM.run, Bind.bind, EStateM.bind] at agree ⊢
  revert agree
  rcases x l₁ with ⟨a, t₁⟩ | ⟨e, t₁⟩ <;> rcases x l₂ with ⟨b, t₂⟩ | ⟨e', t₂⟩ <;>
    intro agree
  · obtain ⟨rfl, related⟩ := agree
    exact rest a t₁ t₂ related
  · exact agree.elim
  · exact agree.elim
  · obtain ⟨rfl, related⟩ := agree
    exact ⟨rfl, related⟩

theorem respects_modify {g : Loader → Loader} (keeps : ∀ l₁ l₂, R l₁ l₂ → R (g l₁) (g l₂)) :
    Respects R (modify g : LoadM PUnit) :=
  fun l₁ l₂ related => ⟨rfl, keeps l₁ l₂ related⟩

/-- A step that reads the loader and goes on alike from related loaders. -/
theorem respects_get_bind {f : Loader → LoadM α} (same : ∀ l₁ l₂, R l₁ l₂ → f l₁ = f l₂)
    (rest : ∀ l, Respects R (f l)) : Respects R (get >>= f) := by
  intro l₁ l₂ related
  show Agree R ((f l₁).run l₁) ((f l₂).run l₂)
  rw [same l₁ l₂ related]
  exact rest l₂ l₁ l₂ related

theorem Respects.mapM {γ : Type} {f : γ → LoadM α} (each : ∀ c, Respects R (f c)) :
    ∀ cs : List γ, Respects R (cs.mapM f)
  | [] => respects_pure []
  | c :: cs => by
    rw [List.mapM_cons]
    exact (each c).bind fun a => (Respects.mapM each cs).bind fun as => respects_pure (a :: as)

/-- Reading a numeral of a line does not look at the loader. -/
theorem respects_operand (ws : List String) (k : Nat) : Respects R (operand ws k) := by
  unfold operand
  split
  · exact respects_throw _
  · split
    · exact respects_pure _
    · exact respects_throw _

theorem respects_operands (ws : List String) (n : Nat) : Respects R (operands ws n) :=
  Respects.mapM (fun k => respects_operand ws (k + 1)) (List.range n)

end Respects

theorem run_emit (k : Nat) (v : Int) (l : Loader) :
    (emit k v).run l =
      match l.machine.ram.set (l.ptr + k) v with
      | .ok ram => .ok () { l with machine.ram := ram }
      | .error e => .error (.fault e) l := by
  show (liftFault (l.machine.ram.set (l.ptr + k) v) >>= fun ram =>
    set { l with machine.ram := ram }).run l = _
  cases l.machine.ram.set (l.ptr + k) v <;> rfl

/-! ## Simulations -/

/-- A relation between loaders that relates only loaders with the same load pointer, size and
memory, and that every change loading makes keeps: recording a line, writing the memory, moving
the load pointer on, a loop sending the counter to the entry point, and an entry line setting
the entry point and the load pointer. -/
structure Simulation where
  /-- The relation. -/
  rel : Loader → Loader → Prop
  ptr : ∀ {l₁ l₂}, rel l₁ l₂ → l₁.ptr = l₂.ptr
  size : ∀ {l₁ l₂}, rel l₁ l₂ → l₁.machine.size = l₂.machine.size
  ram : ∀ {l₁ l₂}, rel l₁ l₂ → l₁.machine.ram = l₂.machine.ram
  noting : ∀ {l₁ l₂} (line : Nat), rel l₁ l₂ → rel (l₁.noting line) (l₂.noting line)
  write : ∀ {l₁ l₂} (ram : Memory), rel l₁ l₂ →
    rel { l₁ with machine.ram := ram } { l₂ with machine.ram := ram }
  skip : ∀ {l₁ l₂} (n : Nat), rel l₁ l₂ →
    rel { l₁ with ptr := l₁.ptr + n } { l₂ with ptr := l₂.ptr + n }
  loop : ∀ {l₁ l₂}, rel l₁ l₂ →
    rel { l₁ with machine.pc := l₁.machine.entry } { l₂ with machine.pc := l₂.machine.entry }
  entry : ∀ {l₁ l₂} (v : Int), rel l₁ l₂ →
    rel { l₁ with machine.entry := v, ptr := v } { l₂ with machine.entry := v, ptr := v }

section Simulation

variable (S : Simulation)

theorem respects_mark (line : Nat) : Respects S.rel (mark line) :=
  respects_modify fun _ _ => S.noting line

theorem respects_skip (n : Nat) : Respects S.rel (skip n) :=
  respects_modify fun _ _ => S.skip n

theorem respects_room (n : Nat) : Respects S.rel (room n) := by
  unfold room
  apply respects_get_bind
  · intro l₁ l₂ related
    rw [S.size related, S.ptr related]
  · intro l
    split
    · exact respects_throw _
    · exact respects_pure _

theorem respects_emit (k : Nat) (v : Int) : Respects S.rel (emit k v) := by
  intro l₁ l₂ related
  have same : l₂.machine.ram.set (l₂.ptr + k) v = l₁.machine.ram.set (l₁.ptr + k) v := by
    rw [S.ram related, S.ptr related]
  rw [run_emit, run_emit, same]
  cases l₁.machine.ram.set (l₁.ptr + k) v with
  | ok ram => exact ⟨rfl, S.write ram related⟩
  | error e => exact ⟨rfl, related⟩

theorem respects_emitAll : ∀ (k : Nat) (vs : List Int), Respects S.rel (emitAll k vs)
  | _, [] => respects_pure ()
  | k, v :: vs => by
    unfold emitAll
    exact (respects_emit S k v).bind fun _ => respects_emitAll (k + 1) vs

theorem respects_pixelInstruction (line : Nat) (op : Opcode) (ws : List String) :
    Respects S.rel (pixelInstruction line op ws) := by
  unfold pixelInstruction
  dsimp only
  refine (respects_mark S line).bind fun _ => ?_
  split
  · refine (respects_pure _).bind fun _ => ?_
    split
    · exact respects_throw_bind _ _
    · exact (respects_room S _).bind fun _ => (respects_emitAll S _ _).bind fun _ =>
        respects_skip S _
  · exact respects_throw_bind _ _

theorem respects_operandInstruction (line : Nat) (op : Opcode) (ws : List String) :
    Respects S.rel (operandInstruction line op ws) := by
  unfold operandInstruction
  dsimp only
  refine (respects_mark S line).bind fun _ => (respects_room S _).bind fun _ =>
    (respects_operands ws _).bind fun _ => respects_get_bind ?_ fun _ => ?_
  -- the check of the operands reads only the size
  · intro l₁ l₂ related
    rw [S.size related]
  · split
    · exact respects_throw_bind _ _
    · exact (respects_emitAll S _ _).bind fun _ => respects_skip S _

theorem respects_instruction (line : Nat) (op : Opcode) (ws : List String) :
    Respects S.rel (instruction line op ws) := by
  unfold instruction
  split
  · exact respects_pixelInstruction S line _ ws
  · exact respects_pixelInstruction S line _ ws
  · exact (respects_mark S line).bind fun _ => (respects_room S 2).bind fun _ =>
      (respects_emit S 0 _).bind fun _ => (respects_operand ws 1).bind fun v =>
      (respects_emit S 1 v).bind fun _ => respects_skip S 2
  · exact (respects_modify fun _ _ => S.loop).bind fun _ => (respects_mark S line).bind fun _ =>
      (respects_room S 1).bind fun _ => (respects_emit S 0 _).bind fun _ => respects_skip S 1
  · exact respects_operandInstruction S line _ ws

theorem respects_words (line : Nat) (ws : List String) : Respects S.rel (words line ws) := by
  unfold words
  dsimp only
  split
  · exact respects_pure _
  · split
    · refine (respects_mark S line).bind fun _ => (respects_operand _ 1).bind fun v =>
        respects_get_bind ?_ fun _ => ?_
      -- the check of the entry point reads only the size
      · intro l₁ l₂ related
        rw [S.size related]
      · split
        · exact respects_throw_bind _ _
        · exact respects_modify fun _ _ => S.entry v
    · split
      · exact respects_instruction S line _ _
      · exact respects_throw _

/-- Loaders that a simulation relates load a program alike: they stop at the same line with the
same error, or at none, and end related. -/
theorem lines_simulate (n : Nat) (L : List String) {l₁ l₂ : Loader} (related : S.rel l₁ l₂) :
    (lines n L l₁).2 = (lines n L l₂).2 ∧ S.rel (lines n L l₁).1 (lines n L l₂).1 := by
  induction L generalizing n l₁ l₂ with
  | nil => exact ⟨rfl, related⟩
  | cons raw rest ih =>
    rw [lines.eq_def, lines.eq_def]
    dsimp only
    cases Source.words? raw with
    | none => exact ih (n + 1) related
    | some ws =>
      dsimp only
      -- the line loads from both loaders with outcomes that agree
      have agree := respects_words S n ws l₁ l₂ related
      revert agree
      rcases (words n ws).run l₁ with ⟨_, t₁⟩ | ⟨e, t₁⟩ <;>
        rcases (words n ws).run l₂ with ⟨_, t₂⟩ | ⟨e', t₂⟩ <;> intro agree
      · exact ih (n + 1) agree.2
      · exact agree.elim
      · exact agree.elim
      · obtain ⟨rfl, related⟩ := agree
        exact ⟨rfl, related⟩

end Simulation

/-- Loaders that differ at most in what loading never touches, which the second takes from
`u`. -/
def adopting (u : Machine) : Simulation where
  rel l₁ l₂ := l₂ = l₁.adopt u
  ptr := by rintro _ _ rfl; rfl
  size := by rintro _ _ rfl; rfl
  ram := by rintro _ _ rfl; rfl
  noting := by rintro _ _ _ rfl; rfl
  write := by rintro _ _ _ rfl; rfl
  skip := by rintro _ _ _ rfl; rfl
  loop := by rintro _ _ rfl; rfl
  entry := by rintro _ _ _ rfl; rfl

/-- Loaders that differ at most in what loading never touches, which the second takes from `u`,
and in the entry point and the counter. -/
def restarting (u : Machine) : Simulation where
  rel l₁ l₂ := ∃ e pc, l₂ = { l₁.adopt u with machine.entry := e, machine.pc := pc }
  ptr := by rintro _ _ ⟨_, _, rfl⟩; rfl
  size := by rintro _ _ ⟨_, _, rfl⟩; rfl
  ram := by rintro _ _ ⟨_, _, rfl⟩; rfl
  noting := by rintro _ _ _ ⟨e, pc, rfl⟩; exact ⟨e, pc, rfl⟩
  write := by rintro _ _ _ ⟨e, pc, rfl⟩; exact ⟨e, pc, rfl⟩
  skip := by rintro _ _ _ ⟨e, pc, rfl⟩; exact ⟨e, pc, rfl⟩
  loop := by rintro _ _ ⟨e, _, rfl⟩; exact ⟨e, e, rfl⟩
  entry := by rintro _ _ v ⟨_, pc, rfl⟩; exact ⟨v, pc, rfl⟩

/-- Loading commutes with changing what it never touches. -/
theorem lines_adopt (n : Nat) (L : List String) (l : Loader) (u : Machine) :
    lines n L (l.adopt u) = ((lines n L l).1.adopt u, (lines n L l).2) := by
  obtain ⟨stop, moved⟩ := @lines_simulate (adopting u) n L l (l.adopt u) rfl
  exact Prod.ext moved stop.symm

/-- Loading leaves alone the scratchpad, the wait and its length, the running flag, the alarm and
the grid. -/
theorem adopt_lines (n : Nat) (L : List String) (l : Loader) :
    (lines n L l).1.adopt l.machine = (lines n L l).1 := by
  have same := lines_adopt n L l l.machine
  rw [adopt_self] at same
  exact (congrArg Prod.fst same).symm

end Loader

namespace Machine

/-- A reset sends the counter to the entry point and ends the wait; then it clears the machine if
its memory can be allocated, and fails there otherwise. -/
theorem yields_reset (m : Machine) :
    Yields reset m
      (fun _ t => t = m.cleared ∧ 0 ≤ m.size ∧ m.size ≤ Memory.allocationLimit)
      (fun _ t => t = { m with pc := m.entry, delay := 0 }) := by
  unfold reset
  rw [yields_modify_bind, yields_get_bind, yields_liftFault_bind]
  refine ⟨fun _ _ => rfl, fun ram allocated => ?_⟩
  obtain ⟨low, high⟩ := Memory.alloc_within allocated
  rw [Memory.eq_zeros_of_alloc allocated]
  exact ⟨rfl, low, high⟩

/-- Loading ends with the scratchpad and the length of the wait the machine had, and no wait,
whether it accepts the program, fails at a line, or cannot allocate the memory; a load that
returns could allocate it. -/
theorem yields_load (L : List String) (m : Machine) :
    Yields (load L) m
      (fun _ t => t.scratch = m.scratch ∧ t.delay = 0 ∧ t.activeDelay = m.activeDelay ∧
        0 ≤ m.size ∧ m.size ≤ Memory.allocationLimit)
      (fun _ t => t.scratch = m.scratch ∧ t.delay = 0 ∧ t.activeDelay = m.activeDelay) := by
  unfold load
  rw [yields_modify_bind, yields_bind]
  refine (yields_reset _).mono (fun _ t cleared => ?_) (fun _ t failed => by subst failed; simp)
  obtain ⟨rfl, low, high⟩ := cleared
  rw [yields_get_bind]
  rcases run : Loader.lines 1 L ⟨{ m with alarm := none }.cleared, 0⟩ with ⟨l, failure⟩
  -- the lines leave the scratchpad and the wait as the reset left them
  have kept := Loader.adopt_lines 1 L ⟨{ m with alarm := none }.cleared, 0⟩
  rw [run] at kept
  dsimp only at kept
  rw [run]
  dsimp only
  rw [← kept]
  cases failure <;> exact ⟨rfl, rfl, rfl, low, high⟩

/-- The loaders that loading starts from on two machines of one size differ at most in what
loading never touches, the entry point and the counter. -/
theorem restarting_cleared {m₁ m₂ : Machine} (sized : m₁.size = m₂.size) :
    (Loader.restarting m₂.cleared).rel ⟨m₁.cleared, 0⟩ ⟨m₂.cleared, 0⟩ :=
  ⟨m₂.entry, m₂.entry, by simp only [cleared, Loader.adopt, sized]⟩

/-- On two machines of one size and one entry point they differ at most in what loading never
touches. -/
theorem adopting_cleared {m₁ m₂ : Machine} (sized : m₁.size = m₂.size)
    (entered : m₁.entry = m₂.entry) :
    (Loader.adopting m₂.cleared).rel ⟨m₁.cleared, 0⟩ ⟨m₂.cleared, 0⟩ := by
  simp only [Loader.adopting, cleared, Loader.adopt, sized, entered]

section Allocatable

variable {m : Machine} (low : 0 ≤ m.size) (high : m.size ≤ Memory.allocationLimit)
include low high

/-- Loading accepts the program or stops at a line of it, keeping the size and leaving the entry
point the program set last, or the machine's own; a program it accepts starts at that entry
point. -/
theorem load_entry (L : List String) :
    ∃ accepted t, (load L).run m = .ok accepted t ∧ t.size = m.size ∧
      t.entry = (Source.assemble m.size L).entries.getLast?.getD m.entry ∧
      (accepted = true → t.pc = t.entry) := by
  obtain ⟨cells, small⟩ := cleared_cells low high
  have follows := Loader.lines_follow 1 L ⟨m.cleared, 0⟩ cells small
  rcases run : Loader.lines 1 L ⟨m.cleared, 0⟩ with ⟨l, failure⟩
  rw [run] at follows
  have entry : l.machine.entry = (Source.assemble m.size L).entries.getLast?.getD m.entry :=
    follows.entry
  rw [run_load low high run]
  cases failure with
  | none => exact ⟨true, _, rfl, follows.size, entry, fun _ => rfl⟩
  | some f => exact ⟨false, _, rfl, follows.size, entry, fun no => by cases no⟩

/-- Two machines of one size load a program alike: both accept it or both stop at the same line
with the same alarm, and they end differing at most in the scratchpad and the length of the wait,
which each keeps, and in the entry point and the counter. -/
theorem load_alike {m₂ : Machine} (sized : m.size = m₂.size) (L : List String) :
    ∃ accepted t₁ t₂ e pc, (load L).run m = .ok accepted t₁ ∧
      (load L).run m₂ = .ok accepted t₂ ∧
      t₂ = { t₁ with
        scratch := m₂.scratch, activeDelay := m₂.activeDelay, entry := e, pc := pc } := by
  rcases run₁ : Loader.lines 1 L ⟨m.cleared, 0⟩ with ⟨l₁, f₁⟩
  rcases run₂ : Loader.lines 1 L ⟨m₂.cleared, 0⟩ with ⟨l₂, f₂⟩
  have kept := Loader.adopt_lines 1 L ⟨m.cleared, 0⟩
  obtain ⟨stop, e, pc, moved⟩ := Loader.lines_simulate _ 1 L (restarting_cleared sized)
  rw [run₁] at kept stop moved
  rw [run₂] at stop moved
  dsimp only at kept stop moved
  subst stop moved
  rw [run_load low high run₁, run_load (sized ▸ low) (sized ▸ high) run₂]
  cases f₁ with
  | none =>
    dsimp only
    rw [← kept]
    exact ⟨true, _, _, e, e, rfl, rfl, rfl⟩
  | some f =>
    dsimp only
    rw [← kept]
    exact ⟨false, _, _, e, pc, rfl, rfl, rfl⟩

/-- Two machines of one size and one entry point load a program alike, and end differing at most
in the scratchpad and the length of the wait, which each keeps. -/
theorem load_alike_of_entry {m₂ : Machine} (sized : m.size = m₂.size) (entered : m.entry = m₂.entry)
    (L : List String) :
    ∃ accepted t, (load L).run m = .ok accepted t ∧
      (load L).run m₂ =
        .ok accepted { t with scratch := m₂.scratch, activeDelay := m₂.activeDelay } := by
  rcases run₁ : Loader.lines 1 L ⟨m.cleared, 0⟩ with ⟨l₁, f₁⟩
  rcases run₂ : Loader.lines 1 L ⟨m₂.cleared, 0⟩ with ⟨l₂, f₂⟩
  have kept := Loader.adopt_lines 1 L ⟨m.cleared, 0⟩
  obtain ⟨stop, moved⟩ := Loader.lines_simulate _ 1 L (adopting_cleared sized entered)
  rw [run₁] at kept stop moved
  rw [run₂] at stop moved
  dsimp only at kept stop moved
  subst stop moved
  rw [run_load low high run₁, run_load (sized ▸ low) (sized ▸ high) run₂]
  cases f₁ with
  | none =>
    dsimp only
    rw [← kept]
    exact ⟨true, _, rfl, rfl⟩
  | some f =>
    dsimp only
    rw [← kept]
    exact ⟨false, _, rfl, rfl⟩

end Allocatable

/-- A program that loads is in place: loading it again changes nothing. -/
theorem load_again {m t : Machine} {L : List String} (loaded : (load L).run m = .ok true t) :
    (load L).run t = .ok true t := by
  obtain ⟨-, -, -, low, high⟩ := (yields_load L m).of_ok loaded
  -- the program's entry point, which it starts at
  obtain ⟨accepted, t', run, sized, entry, starts⟩ := load_entry low high L
  rw [loaded] at run
  cases run
  -- loading it again is loading it on a machine of the same size
  obtain ⟨again, t₁, t₂, e, pc, run₁, run₂, rfl⟩ := load_alike low high sized.symm L
  rw [loaded] at run₁
  cases run₁
  -- which ends at the same entry point, and starts there
  obtain ⟨_, t₃, run₃, -, entry₃, starts₃⟩ :=
    @load_entry t (sized ▸ low) (sized ▸ high) L
  rw [run₂] at run₃
  cases run₃
  have last : e = t.entry := by
    rw [show e = _ from entry₃, sized, entry]
    cases (Source.assemble m.size L).entries.getLast? <;> rfl
  have started : pc = e := starts₃ rfl
  subst started last
  -- the counter of the loaded machine is already at its entry point
  have atEntry : t.pc = t.entry := starts rfl
  rw [run₂]
  cases t
  dsimp only at atEntry ⊢
  rw [atEntry]

/-- Loading does not depend on the machine it runs on but through the size of its memory and
its entry point. On two machines of one size whose memory can be allocated, a program is accepted
by both or by neither and leaves the same memory, line map, alarm, running flag, wait and grid;
on machines with the same entry point also the same entry point and counter. The entry point is
the one the program set last, or else the machine's own; a program that is accepted starts there,
and loading it again changes nothing. -/
theorem load_depends_on_size_and_entry {m₁ m₂ : Machine} (sized : m₁.size = m₂.size)
    (low : 0 ≤ m₁.size) (high : m₁.size ≤ Memory.allocationLimit) (L : List String) :
    ∃ accepted t₁ t₂, (load L).run m₁ = .ok accepted t₁ ∧ (load L).run m₂ = .ok accepted t₂ ∧
      t₁.ram = t₂.ram ∧ t₁.lines = t₂.lines ∧ t₁.alarm = t₂.alarm ∧ t₁.running = t₂.running ∧
      t₁.delay = t₂.delay ∧ t₁.grid = t₂.grid ∧
      (m₁.entry = m₂.entry → t₁.entry = t₂.entry ∧ t₁.pc = t₂.pc) ∧
      t₁.entry = (Source.assemble m₁.size L).entries.getLast?.getD m₁.entry ∧
      (accepted = true → t₁.pc = t₁.entry ∧ (load L).run t₁ = .ok true t₁) := by
  obtain ⟨accepted, t₁, t₂, e, pc, run₁, run₂, rfl⟩ := load_alike low high sized L
  obtain ⟨_, _, run, -, entry, starts⟩ := load_entry low high L
  rw [run₁] at run
  cases run
  refine ⟨accepted, t₁, _, run₁, run₂, rfl, rfl, rfl, rfl, rfl, rfl, fun entered => ?_, entry,
    fun yes => ⟨starts yes, load_again (yes ▸ run₁)⟩⟩
  -- with one entry point, the two loads end alike but for what each keeps of its own
  obtain ⟨_, _, run₁', run₂'⟩ := load_alike_of_entry low high sized entered L
  rw [run₁] at run₁'
  cases run₁'
  rw [run₂] at run₂'
  cases run₂'
  exact ⟨rfl, rfl⟩

/-- A machine of eight cells that an earlier program left with the entry point 5. -/
def enteredAtFive : Machine :=
  { size := 8, ram := Memory.zeros 8, scratch := freshScratch, entry := 5 }

/-- A new machine of eight cells. -/
def freshEight : Machine := { size := 8, ram := Memory.zeros 8, scratch := freshScratch }

theorem load_depends_on_size_and_entry_sample :
    (enteredAtFive.size = freshEight.size ∧ 0 ≤ enteredAtFive.size ∧
      enteredAtFive.size ≤ Memory.allocationLimit) ∧
    ∃ accepted t₁ t₂, (load ["SETALL"]).run enteredAtFive = .ok accepted t₁ ∧
      (load ["SETALL"]).run freshEight = .ok accepted t₂ ∧
      t₁.ram = t₂.ram ∧ t₁.lines = t₂.lines ∧ t₁.alarm = t₂.alarm ∧ t₁.running = t₂.running ∧
      t₁.delay = t₂.delay ∧ t₁.grid = t₂.grid ∧
      (enteredAtFive.entry = freshEight.entry → t₁.entry = t₂.entry ∧ t₁.pc = t₂.pc) ∧
      t₁.entry =
        (Source.assemble enteredAtFive.size ["SETALL"]).entries.getLast?.getD enteredAtFive.entry ∧
      (accepted = true → t₁.pc = t₁.entry ∧ (load ["SETALL"]).run t₁ = .ok true t₁) :=
  ⟨⟨rfl, by decide, by decide⟩,
    @load_depends_on_size_and_entry enteredAtFive freshEight rfl (by decide) (by decide) _⟩

/-- Loading keeps the entry point a machine had: a machine left at the entry point 5 starts a
program without an entry line there, where a new machine starts it at 0. And a program that fails
after its entry line leaves the counter at the entry point the machine had, so that loading it a
second time moves the counter. -/
theorem load_keeps_stale_entry :
    (Yields (load ["SETALL"]) enteredAtFive (fun accepted t => accepted = true ∧ t.pc = 5)
        fun _ _ => False) ∧
    (Yields (load ["SETALL"]) freshEight (fun accepted t => accepted = true ∧ t.pc = 0)
        fun _ _ => False) ∧
    Yields (load ["EP 5", "BOGUS"]) freshEight
      (fun accepted t => accepted = false ∧ t.pc = 0 ∧
        Yields (load ["EP 5", "BOGUS"]) t (fun again t' => again = false ∧ t'.pc = 5)
          fun _ _ => False)
      fun _ _ => False := by
  decide +kernel

end Machine

end LedMachine
