import LedMachine.Proofs.Frame
import LedMachine.Proofs.RoundTrip

/-!
# What a step checks, loading checked

A step checks the instruction at the counter before it carries it out: that its bytes lie within
the declared memory, that its memory addresses lie below the size and its scratchpad addresses
below eight, and that the pixels it sets or clears lie on the grid. Loading checks all of these
but the last: it accepts pixel coordinates up to 255, which a step then refuses
(`set_off_grid_halts`).

`Instr.passes` collects the checks a step makes of an instruction's operands. A step of an
instruction held at the counter that passes them neither stops the machine nor raises its alarm,
whatever else it does (`step_quiet`), and every instruction of a layout passes them but the
pixel coordinates (`Source.stmt?_passes`). Together: an instruction loaded from a program, still
held at the counter, steps quietly as long as its pixels lie on the grid
(`loaded_instruction_steps_quietly`).

The argument runs through the frame `Machine.quiet`, which keeps the alarm and whether the machine
runs: every operation of a step but halting keeps it.
-/

namespace LedMachine

namespace Machine

/-! ## Quiet operations -/

/-- The machine `t` has the alarm and the running flag of `m`. -/
def Quiet (m t : Machine) : Prop := t.alarm = m.alarm ∧ t.running = m.running

/-- Keeping the alarm and whether the machine runs: every operation but halting does. -/
def quiet : Frame where
  rel := Quiet
  refl _ := ⟨rfl, rfl⟩
  trans first second := ⟨second.1.trans first.1, second.2.trans first.2⟩
  ram _ _ := ⟨rfl, rfl⟩
  scratch _ _ := ⟨rfl, rfl⟩
  grid _ _ := ⟨rfl, rfl⟩

theorem quiet_advance (n : Nat) : Keeps quiet.rel (advance n) :=
  keeps_modify fun _ => ⟨rfl, rfl⟩

theorem quiet_jumpTo (a : Int) : Keeps quiet.rel (jumpTo a) :=
  keeps_modify fun _ => ⟨rfl, rfl⟩

end Machine

namespace Memory

theorem Holds.at {m : Memory} {a : Int} {bs : List Nat} (h : m.Holds a bs) (k : Nat) {b : Nat}
    (found : bs[k]? = some b) : m.get (a + k) = .ok b := by
  obtain ⟨hk, rfl⟩ := List.getElem?_eq_some_iff.mp found
  exact h k hk

end Memory

namespace Operand

/-- An operand the parser admits is stored as a byte that passes the same check. -/
theorem admits_byte {size : Int} {o : Operand} {v : Int} (admitted : o.admits size v = true) :
    o.admits size (o.byte v) = true := by
  have eight : (scratchSize : Int) = 8 := rfl
  cases o <;> simp [admits, byte] at admitted ⊢ <;> omega

theorem zip_zipWith_byte_admits {size : Int} {os : List Operand} {vs : List Int}
    (admitted : (os.zip vs).all (fun q => q.1.admits size q.2) = true) :
    (os.zip (List.zipWith byte os vs)).all (fun q => q.1.admits size q.2) = true := by
  induction os generalizing vs with
  | nil => rfl
  | cons o os ih =>
    cases vs with
    | nil => rfl
    | cons v vs =>
      simp only [List.zip_cons_cons, List.zipWith_cons_cons, List.all_cons,
        Bool.and_eq_true] at admitted ⊢
      exact ⟨admits_byte admitted.1, ih admitted.2⟩

end Operand

/-- Whether the operands of an instruction pass the checks a step makes of them: memory addresses
below the size and scratchpad addresses below eight, and for setting or clearing pixels
coordinates on the grid. -/
def Instr.passes (size : Int) (i : Instr) : Bool :=
  if i.op.takesPairs then i.args.tail.all (· < gridSide)
  else (i.op.operands.zip i.args).all fun q => q.1.admits size q.2

namespace Machine

/-! ## A step of an instruction that passes its checks -/

/-- The operand in place `k` of an instruction that passes its checks is of its kind. -/
theorem admits_of_passes {size : Int} {op : Opcode} {args : List Nat}
    (passes : (Instr.mk op args).passes size = true) (fixed : op.takesPairs = false) (k : Nat)
    {o : Operand} {b : Nat} (kind : op.operands[k]? = some o) (found : args[k]? = some b) :
    o.admits size b = true := by
  simp only [Instr.passes, fixed, Bool.false_eq_true, if_false, List.all_eq_true] at passes
  exact passes (o, b) (List.mem_of_getElem? (List.getElem?_zip_eq_some.mpr ⟨kind, found⟩))

theorem holds_of_admits {m : Machine} {a : Nat} (admitted : Operand.cell.admits m.size a = true) :
    m.holds a = true := by
  simp only [Operand.admits, decide_eq_true_eq] at admitted
  simp only [holds, decide_eq_true_eq]
  exact admitted.2.1

theorem scratch_of_admits {size : Int} {s : Nat} (admitted : Operand.scratch.admits size s = true) :
    s < scratchSize := by
  simp only [Operand.admits, decide_eq_true_eq] at admitted
  have eight : (scratchSize : Int) = 8 := rfl
  omega

theorem holds_of_passes {m : Machine} {op : Opcode} {args : List Nat}
    (passes : (Instr.mk op args).passes m.size = true) (fixed : op.takesPairs = false) (k : Nat)
    {b : Nat} (kind : op.operands[k]? = some .cell) (found : args[k]? = some b) :
    m.holds b = true :=
  holds_of_admits (admits_of_passes passes fixed k kind found)

theorem scratch_of_passes {size : Int} {op : Opcode} {args : List Nat}
    (passes : (Instr.mk op args).passes size = true) (fixed : op.takesPairs = false) (k : Nat)
    {b : Nat} (kind : op.operands[k]? = some .scratch) (found : args[k]? = some b) :
    b < scratchSize :=
  scratch_of_admits (admits_of_passes passes fixed k kind found)

theorem pair_of_length {l : List Nat} (two : l.length = 2) : ∃ a b, l = [a, b] := by
  match l, two with
  | [a, b], _ => exact ⟨a, b, rfl⟩

theorem triple_of_length {l : List Nat} (three : l.length = 3) : ∃ a b c, l = [a, b, c] := by
  match l, three with
  | [a, b, c], _ => exact ⟨a, b, c, rfl⟩

theorem Opcode.code_ne_zero (op : Opcode) : op.code ≠ 0 := by
  cases op <;> decide

theorem length_of_shaped {op : Opcode} {args : List Nat} (fixed : op.takesPairs = false)
    (shaped : (Instr.mk op args).shaped = true) : args.length = op.arity := by
  simpa [Instr.shaped, fixed] using shaped

/-- A well-formed instruction has at least the operand bytes its opcode announces: pixel
instructions announce only the count of their pairs. -/
theorem arity_le_of_shaped {op : Opcode} {args : List Nat}
    (shaped : (Instr.mk op args).shaped = true) : op.arity ≤ args.length := by
  cases pairs : op.takesPairs
  · exact Nat.le_of_eq (length_of_shaped pairs shaped).symm
  · have one : op.arity = 1 := by
      cases op <;> first | rfl | simp [Opcode.takesPairs] at pairs
    simp only [Instr.shaped, pairs, if_true] at shaped
    split at shaped
    · simp [one]
    · cases shaped

/-- Painting pairs held in memory, all on the grid and all within the declared memory, goes
through every pair and ends past the last, keeping the alarm and the running flag. -/
theorem yields_paintPairs (op : Opcode) (lit : Bool) :
    ∀ (count : Nat) (addr : Int) (m : Machine) (coords : List Nat),
      coords.length = 2 * count → m.ram.Holds addr coords → (∀ c ∈ coords, c < gridSide) →
      addr + coords.length ≤ m.size →
      Yields (paintPairs op lit count addr) m (fun r t => r = .ok (addr + 2 * count) ∧ Quiet m t)
        (fun _ => Quiet m)
  | 0, addr, m, _, _, _, _, _ => ⟨by simp, quiet.refl m⟩
  | count + 1, addr, m, coords, length, held, onGrid, within => by
    obtain ⟨x, y, rest, rfl⟩ : ∃ x y rest, coords = x :: y :: rest := by
      match coords, length with
      | x :: y :: rest, _ => exact ⟨x, y, rest, rfl⟩
    simp only [List.length_cons] at length within
    unfold paintPairs
    rw [yields_get_bind, if_neg (by omega), yields_cell_bind_of held.head,
      yields_cell_bind_of held.tail.head,
      if_pos ⟨onGrid x (by simp), onGrid y (by simp)⟩, yields_paint_bind]
    -- the rest of the pairs, from the painted machine
    have next := yields_paintPairs op lit count (addr + 2) { m with grid := m.grid.paint x y lit }
      rest (by omega) (by simpa [show addr + 2 = addr + 1 + 1 by omega] using held.tail.tail)
      (fun c mem => onGrid c (by simp [mem])) (by simp only; omega)
    refine next.mono (fun r t ⟨ended, kept⟩ => ⟨?_, quiet.trans (quiet.grid m _) kept⟩)
      (fun _ _ kept => quiet.trans (quiet.grid m _) kept)
    rw [ended]
    congr 1
    omega

section Operands

-- The operands of a step are bytes read as integers. Runs are taken apart here by the rules of
-- an outcome only: opened by unfolding, a run on a read byte would be evaluated in full.
attribute [local irreducible] Yields

/-- Carrying out an instruction held at `pc`, with its bytes within the declared memory and its
operands passing a step's checks, keeps the alarm and the running flag. -/
theorem execute_quiet {m : Machine} {pc : Int} {op : Opcode} {args : List Nat}
    (held : m.ram.Holds pc (op.code :: args)) (shaped : (Instr.mk op args).shaped = true)
    (passes : (Instr.mk op args).passes m.size = true) (within : pc + args.length + 1 ≤ m.size) :
    Yields (execute op pc) m (fun _ => Quiet m) (fun _ => Quiet m) := by
  have rest := held.tail
  unfold execute
  rw [yields_get_bind]
  -- each instruction reads its operands, passes its check and goes on calmly
  cases op <;> dsimp only
  case set | clear =>
    obtain ⟨count, coords, rfl, length⟩ : ∃ count coords, args = count :: coords ∧
        coords.length = 2 * count := by
      simp only [Instr.shaped, Opcode.takesPairs, if_true] at shaped
      split at shaped
      · exact ⟨_, _, rfl, by simpa using shaped⟩
      · cases shaped
    simp only [Instr.passes, Opcode.takesPairs, if_true, List.tail_cons, List.all_eq_true,
      decide_eq_true_eq] at passes
    simp only [List.length_cons] at within
    rw [yields_cell_bind_of (held.at 1 rfl), yields_bind]
    refine (yields_paintPairs _ _ count (pc + 2) m coords length
      (by simpa [show pc + 2 = pc + 1 + 1 by omega] using rest.tail) passes (by omega)).mono
      (fun r t painted => ?_) (fun _ _ kept => kept)
    obtain ⟨ended, kept⟩ := painted
    rw [ended]
    exact ((quiet_jumpTo _).bind fun _ => keeps_pure false) t |>.mono
      (fun _ _ => quiet.trans kept) (fun _ _ => quiet.trans kept)
  case wait =>
    obtain ⟨n, rfl⟩ := List.length_eq_one_iff.mp (length_of_shaped rfl shaped)
    rw [yields_cell_bind_of (held.at 1 rfl)]
    refine (Keeps.bind ?_ fun _ => (quiet_advance 2).bind fun _ => keeps_pure false) m
    exact keeps_modify fun _ => ⟨rfl, rfl⟩
  case loop => exact ((quiet_jumpTo _).bind fun _ => keeps_pure false) m
  case setAll | setNone =>
    refine (Keeps.bind ?_ fun _ => (quiet_advance 1).bind fun _ => keeps_pure false) m
    exact keeps_modify fun _ => ⟨rfl, rfl⟩
  case store =>
    obtain ⟨a, v, rfl⟩ := pair_of_length (length_of_shaped rfl shaped)
    rw [yields_cell_bind_of (held.at 1 rfl), yields_cell_bind_of (held.at 2 rfl),
      if_pos (holds_of_passes passes rfl 0 rfl rfl)]
    exact ((keeps_store _ _).bind fun _ => (quiet_advance 3).bind fun _ => keeps_pure false) m
  case load =>
    obtain ⟨a, rfl⟩ := List.length_eq_one_iff.mp (length_of_shaped rfl shaped)
    rw [yields_cell_bind_of (held.at 1 rfl), if_pos (holds_of_passes passes rfl 0 rfl rfl)]
    exact ((keeps_cell _).bind fun _ => (keeps_paint _ _ _).bind fun _ =>
      (quiet_advance 2).bind fun _ => keeps_pure false) m
  case jump =>
    obtain ⟨a, rfl⟩ := List.length_eq_one_iff.mp (length_of_shaped rfl shaped)
    rw [yields_cell_bind_of (held.at 1 rfl), if_pos (holds_of_passes passes rfl 0 rfl rfl)]
    exact ((quiet_jumpTo _).bind fun _ => keeps_pure false) m
  case jumpIf =>
    obtain ⟨a, r, rfl⟩ := pair_of_length (length_of_shaped rfl shaped)
    rw [yields_cell_bind_of (held.at 1 rfl), yields_cell_bind_of (held.at 2 rfl),
      if_pos (Bool.and_eq_true_iff.mpr ⟨holds_of_passes passes rfl 0 rfl rfl,
        holds_of_passes passes rfl 1 rfl rfl⟩)]
    exact ((keeps_cell _).bind fun _ =>
      Keeps.ite (fun _ => (quiet_jumpTo _).bind fun _ => keeps_pure false)
        (fun _ => (quiet_advance 3).bind fun _ => keeps_pure false)) m
  case scratchStore =>
    obtain ⟨s, v, rfl⟩ := pair_of_length (length_of_shaped rfl shaped)
    rw [yields_cell_bind_of (held.at 1 rfl), yields_cell_bind_of (held.at 2 rfl),
      if_pos (scratch_of_passes passes rfl 0 rfl rfl)]
    exact ((keeps_storeScratch _ _).bind fun _ => (quiet_advance 3).bind fun _ => keeps_pure true) m
  case scratchLoad =>
    obtain ⟨s, r, rfl⟩ := pair_of_length (length_of_shaped rfl shaped)
    rw [yields_cell_bind_of (held.at 1 rfl), yields_cell_bind_of (held.at 2 rfl),
      if_pos (Bool.and_eq_true_iff.mpr ⟨decide_eq_true (scratch_of_passes passes rfl 0 rfl rfl),
        holds_of_passes passes rfl 1 rfl rfl⟩)]
    exact ((keeps_scratchCell _).bind fun _ => (keeps_storeValue _ _).bind fun _ =>
      (quiet_advance 3).bind fun _ => keeps_pure false) m
  case scratchAdd =>
    obtain ⟨s, t, d, rfl⟩ := triple_of_length (length_of_shaped rfl shaped)
    rw [yields_cell_bind_of (held.at 1 rfl), yields_cell_bind_of (held.at 2 rfl),
      yields_cell_bind_of (held.at 3 rfl),
      if_pos (Bool.and_eq_true_iff.mpr ⟨Bool.and_eq_true_iff.mpr
        ⟨decide_eq_true (scratch_of_passes passes rfl 0 rfl rfl),
          decide_eq_true (scratch_of_passes passes rfl 1 rfl rfl)⟩,
        decide_eq_true (scratch_of_passes passes rfl 2 rfl rfl)⟩)]
    exact ((keeps_scratchCell _).bind fun _ => (keeps_scratchCell _).bind fun _ =>
      (keeps_liftFault _).bind fun _ => (keeps_liftFault _).bind fun _ =>
      (keeps_storeScratch _ _).bind fun _ => (quiet_advance 4).bind fun _ => keeps_pure true) m
  case scratchCopy =>
    obtain ⟨r, s, rfl⟩ := pair_of_length (length_of_shaped rfl shaped)
    rw [yields_cell_bind_of (held.at 1 rfl), yields_cell_bind_of (held.at 2 rfl),
      if_pos (Bool.and_eq_true_iff.mpr ⟨holds_of_passes passes rfl 0 rfl rfl,
        decide_eq_true (scratch_of_passes passes rfl 1 rfl rfl)⟩)]
    exact ((keeps_cell _).bind fun _ => (keeps_storeScratch _ _).bind fun _ =>
      (quiet_advance 3).bind fun _ => keeps_pure true) m
  case scratchJumpIf =>
    obtain ⟨a, s, rfl⟩ := pair_of_length (length_of_shaped rfl shaped)
    rw [yields_cell_bind_of (held.at 1 rfl), yields_cell_bind_of (held.at 2 rfl),
      if_pos (Bool.and_eq_true_iff.mpr ⟨holds_of_passes passes rfl 0 rfl rfl,
        decide_eq_true (scratch_of_passes passes rfl 1 rfl rfl)⟩)]
    exact ((keeps_scratchCell _).bind fun _ => (keeps_liftFault _).bind fun _ =>
      Keeps.ite (fun _ => (quiet_jumpTo _).bind fun _ => keeps_pure false)
        (fun _ => (quiet_advance 3).bind fun _ => keeps_pure false)) m
  case add | bitAnd | bitOr | bitXor | sub =>
    obtain ⟨a, b, d, rfl⟩ := triple_of_length (length_of_shaped rfl shaped)
    rw [yields_cell_bind_of (held.at 1 rfl), yields_cell_bind_of (held.at 2 rfl),
      yields_cell_bind_of (held.at 3 rfl),
      if_pos (Bool.and_eq_true_iff.mpr ⟨Bool.and_eq_true_iff.mpr
        ⟨holds_of_passes passes rfl 0 rfl rfl, holds_of_passes passes rfl 1 rfl rfl⟩,
        holds_of_passes passes rfl 2 rfl rfl⟩)]
    exact ((keeps_cell _).bind fun _ => (keeps_cell _).bind fun _ => (keeps_store _ _).bind fun _ =>
      (quiet_advance 4).bind fun _ => keeps_pure false) m
  case bitNot | shiftLeft | shiftRight =>
    obtain ⟨a, d, rfl⟩ := pair_of_length (length_of_shaped rfl shaped)
    rw [yields_cell_bind_of (held.at 1 rfl), yields_cell_bind_of (held.at 2 rfl),
      if_pos (Bool.and_eq_true_iff.mpr ⟨holds_of_passes passes rfl 0 rfl rfl,
        holds_of_passes passes rfl 1 rfl rfl⟩)]
    exact ((keeps_cell _).bind fun _ => (keeps_store _ _).bind fun _ =>
      (quiet_advance 3).bind fun _ => keeps_pure false) m

/-- A step from a machine whose counter holds a well-formed instruction, within the declared
memory and passing the checks a step makes of its operands, keeps the alarm and the running flag.
A step that only counts a wait down is quiet as well. -/
theorem step_quiet {m : Machine} {i : Instr} (held : m.ram.Holds m.pc i.bytes)
    (shaped : i.shaped = true) (passes : i.passes m.size = true) (within : m.pc + i.size ≤ m.size) :
    Yields step m (fun _ => Quiet m) (fun _ => Quiet m) := by
  obtain ⟨op, args⟩ := i
  simp only [Instr.size] at within
  have announced := arity_le_of_shaped shaped
  unfold step
  rw [yields_get_bind]
  by_cases waiting : 0 < m.delay
  · rw [if_pos waiting, yields_set_bind, yields_pure]
    exact ⟨rfl, rfl⟩
  -- the counter lies below the size, reads the code of a known opcode, and its operands fit
  rw [if_neg waiting, if_neg (by omega), yields_cell_bind_of held.head,
    if_neg (Opcode.code_ne_zero op), Opcode.ofCode?_code]
  dsimp only
  rw [if_neg (by omega)]
  exact execute_quiet held shaped passes (by dsimp only; omega)

end Operands

end Machine

namespace Source

/-- An instruction the parser makes passes every check a step makes of its operands, but for the
pixel coordinates: those the parser takes up to 255. -/
theorem instr?_passes {size : Int} {op : Opcode} {ws : List String} {i : Instr}
    (made : instr? size op ws = some i)
    (onGrid : i.op.takesPairs = true → ∀ b ∈ i.args.tail, b < gridSide) :
    i.passes size = true := by
  cases pixels : op.takesPairs
  · obtain ⟨vs, -, admitted, rfl⟩ := instr?_fixed_eq_some pixels made
    simp only [Instr.passes, pixels, Bool.false_eq_true, if_false]
    exact Operand.zip_zipWith_byte_admits admitted
  · obtain ⟨ps, -, -, rfl⟩ := instr?_pixels_eq_some pixels made
    simp only [Instr.passes, pixels, if_true, List.all_eq_true, decide_eq_true_eq]
    exact onGrid pixels

theorem stmt?_passes {size : Int} {ws : List String} {i : Instr}
    (made : stmt? size ws = some (.instr i))
    (onGrid : i.op.takesPairs = true → ∀ b ∈ i.args.tail, b < gridSide) :
    i.passes size = true := by
  obtain ⟨_, found⟩ := instr?_of_stmt? made
  exact instr?_passes found onGrid

end Source

namespace Machine

/-- A step of an instruction loaded from a program neither raises the alarm nor stops the
machine, from any state whose counter points at it and whose memory still holds it, as long as
the pixels it sets or clears lie on the grid. -/
theorem loaded_instruction_steps_quietly (s : Machine) (L : List String) {pl : Placed}
    (mem : pl ∈ (Source.assemble s.size L).placed)
    (onGrid : pl.instr.op.takesPairs = true → ∀ b ∈ pl.instr.args.tail, b < gridSide)
    (pointed : s.pc = pl.addr) (held : s.ram.Holds pl.addr pl.instr.bytes) :
    Yields step s (fun _ => Quiet s) (fun _ => Quiet s) := by
  obtain ⟨fit, -, ws, -, made⟩ := Source.mem_placed_layout mem
  rw [← pointed] at held fit
  rw [Source.fits_eq_true] at fit
  exact step_quiet held (Source.stmt?_shaped made).1 (Source.stmt?_passes made onGrid) fit.2

theorem loaded_instruction_steps_quietly_sample :
    Yields step
      { size := 16, ram := (Memory.zeros 16).write 0 [5, 3, 44], scratch := freshScratch,
        running := true }
      (fun _ => Quiet { size := 16, ram := (Memory.zeros 16).write 0 [5, 3, 44],
                        scratch := freshScratch, running := true })
      (fun _ => Quiet { size := 16, ram := (Memory.zeros 16).write 0 [5, 3, 44],
                        scratch := freshScratch, running := true }) :=
  @loaded_instruction_steps_quietly _ ["STORE 3 300"] ⟨1, 0, ⟨.store, [3, 44]⟩⟩
    (by decide +kernel) (fun pixels => by cases pixels) rfl
    (Memory.Holds.of_write _ (by decide) (by decide) (by decide) (by decide +kernel) (by decide))

/-- Loading takes pixel coordinates up to 255, a step only those on the grid: setting a pixel off
the grid, loaded and held at the counter, raises the alarm and stops the machine. -/
theorem set_off_grid_halts :
    (⟨1, 0, ⟨.set, [1, 4, 0]⟩⟩ : Placed) ∈ (Source.assemble 32 ["SET 4 0"]).placed ∧
      ((Memory.zeros 32).write 0 [1, 1, 4, 0]).Holds 0 [1, 1, 4, 0] ∧
      ∃ t, step.run
          { size := 32, ram := (Memory.zeros 32).write 0 [1, 1, 4, 0], scratch := freshScratch,
            running := true } = .ok false t ∧
        t.alarm = some (.badCoordinates .set 4 0) ∧ t.running = false :=
  ⟨by decide +kernel,
    Memory.Holds.of_write _ (by decide) (by decide) (by decide) (by decide +kernel) (by decide),
    _, rfl, rfl, rfl⟩

end Machine

end LedMachine
