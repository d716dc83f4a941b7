import LedMachine.Proofs.Layout
import LedMachine.Proofs.Outcome

/-!
# Loading follows the layout

Loading a program line by line does what `Source.layout` says. A line that stands for a statement
which fits at the load pointer is loaded: its bytes are written there, the pointer moves past
them or to the new entry point, and a loop sends the counter to the entry point. Any other line
fails, having changed at most the memory, the line map and, for a loop, the counter.

The memory's cells are counted by the declared size, and the size fits a machine word, as for
every machine whose memory was allocated.
-/

namespace LedMachine

namespace Memory

/-- The memory with the cell that an index names holding a byte; an index that names no cell
changes nothing. -/
def put (m : Memory) (i : Int) (b : Nat) : Memory :=
  match position? m.size i with
  | some p => ⟨m.cells.setIfInBounds p (UInt8.ofNat b)⟩
  | none => m

/-- The memory with bytes written one after another from index `i` on. -/
def write (m : Memory) (i : Int) : List Nat → Memory
  | [] => m
  | b :: bs => (m.put i b).write (i + 1) bs

@[simp]
theorem size_put (m : Memory) (i : Int) (b : Nat) : (m.put i b).size = m.size := by
  unfold put
  split <;> simp [size]

@[simp]
theorem size_write (m : Memory) (i : Int) (bs : List Nat) : (m.write i bs).size = m.size := by
  induction bs generalizing m i with
  | nil => rfl
  | cons b bs ih => simp [write, ih]

/-- An index from `-size` up to `size` names the cell at its remainder modulo the size. -/
theorem position?_of_within {size : Nat} {i : Int} (low : -(size : Int) ≤ i) (high : i < size) :
    position? size i = some (i % size).toNat := by
  unfold position?
  by_cases nonneg : 0 ≤ i
  · simp [nonneg, high, Int.emod_eq_of_lt nonneg high]
  · have shifted : i % size = i + size := by
      rw [← Int.add_emod_right i size, Int.emod_eq_of_lt (by omega) (by omega)]
    simp only [nonneg, if_false, low, if_true, shifted, Option.some.injEq]
    omega

theorem position?_of_below {size : Nat} {i : Int} (below : i < -(size : Int)) :
    position? size i = none := by
  unfold position?
  simp only [show ¬ 0 ≤ i by omega, if_false, show ¬ -(size : Int) ≤ i by omega]

/-- A store within a memory whose size fits a word fails only on a value that is no byte. -/
theorem set_of_within (m : Memory) {i v : Int} (small : (m.size : Int) ≤ wordHalf)
    (low : -(m.size : Int) ≤ i) (high : i < m.size) :
    m.set i v = if Source.isByte v then .ok (m.put i v.toNat) else .error .notAByte := by
  have word : fitsWord i = true := by
    simp only [fitsWord, decide_eq_true_eq]
    omega
  unfold set put
  simp only [word, Bool.not_true, Bool.false_eq_true, if_false, Source.isByte,
    position?_of_within low high]
  by_cases byte : 0 ≤ v ∧ v < 256 <;> simp [byte]

/-- A store below the first cell fails. -/
theorem set_of_below (m : Memory) {i v : Int} (below : i < -(m.size : Int)) :
    ∃ e, m.set i v = .error e := by
  unfold set
  split
  · exact ⟨_, rfl⟩
  · split
    · exact ⟨_, rfl⟩
    · simp [position?_of_below below]

end Memory

end LedMachine

namespace LedMachine

namespace Loader

/-- The loader with the line map sending the load pointer to `line`. -/
def noting (l : Loader) (line : Nat) : Loader :=
  { l with machine.lines := some ((l.machine.lines.getD LineMap.empty).insert l.ptr line) }

/-- The loader after a line whose statement was loaded: an entry point becomes the entry and the
load pointer; an instruction is written at the load pointer, which moves past it, and a loop sends
the counter to the entry point. -/
def place (l : Loader) (line : Nat) : Stmt → Loader
  | .entry v => { l.noting line with machine.entry := v, ptr := v }
  | .instr i =>
    { l.noting line with
      machine.ram := l.machine.ram.write l.ptr i.bytes
      machine.pc := if i.op = .loop then l.machine.entry else l.machine.pc
      ptr := l.ptr + i.size }

/-- What a line that fails may have changed: the memory, but not its size, the line map, and the
counter, which only a loop moves, to the entry point. -/
def Spoils (l l' : Loader) : Prop :=
  ∃ ram lines pc, ram.size = l.machine.ram.size ∧ (pc = l.machine.pc ∨ pc = l.machine.entry) ∧
    l' = { l with machine.ram := ram, machine.lines := lines, machine.pc := pc }

theorem Spoils.noting (l : Loader) (line : Nat) : l.Spoils (l.noting line) :=
  ⟨_, _, _, rfl, .inl rfl, rfl⟩

section Rules

variable {α : Type} {l : Loader} {ok : α → Loader → Prop} {err : LineError → Loader → Prop}

theorem yields_mark_bind (line : Nat) (f : Unit → LoadM α) :
    Yields (mark line >>= f) l ok err ↔ Yields (f ()) (l.noting line) ok err :=
  Iff.rfl

theorem yields_skip (n : Nat) {ok : Unit → Loader → Prop} :
    Yields (skip n) l ok err ↔ ok () { l with ptr := l.ptr + n } :=
  Iff.rfl

theorem yields_room_bind (n : Nat) (f : Unit → LoadM α) :
    Yields (room n >>= f) l ok err ↔
      (l.machine.size < l.ptr + n → err .noRoom l) ∧
        (l.ptr + n ≤ l.machine.size → Yields (f ()) l ok err) := by
  unfold room
  simp only [bind_assoc, yields_get_bind]
  by_cases short : l.machine.size < l.ptr + n
  · simp only [short, if_true, yields_throw_bind, true_imp_iff]
    constructor
    · exact fun h => ⟨h, fun fits => absurd fits (by omega)⟩
    · exact fun h => h.1
  · simp only [short, if_false, false_imp_iff, true_and]
    exact ⟨fun h _ => h, fun h => h (by omega)⟩

theorem yields_liftFault_bind {β : Type} (r : Except Fault β) (f : β → LoadM α) :
    Yields (liftFault r >>= f) l ok err ↔
      (∀ e, r = .error e → err (.fault e) l) ∧ (∀ b, r = .ok b → Yields (f b) l ok err) := by
  cases r with
  | error e =>
    exact ⟨fun h => ⟨fun e' same => (by cases same; exact h), fun _ same => (by cases same)⟩,
      fun h => h.1 e rfl⟩
  | ok b =>
    exact ⟨fun h => ⟨fun _ same => (by cases same), fun b' same => (by cases same; exact h)⟩,
      fun h => h.2 b rfl⟩

theorem yields_emit_bind (k : Nat) (v : Int) (f : Unit → LoadM α) :
    Yields (emit k v >>= f) l ok err ↔
      (∀ e, l.machine.ram.set (l.ptr + k) v = .error e → err (.fault e) l) ∧
        (∀ ram, l.machine.ram.set (l.ptr + k) v = .ok ram →
          Yields (f ()) { l with machine.ram := ram } ok err) := by
  unfold emit
  simp only [bind_assoc, yields_get_bind, yields_liftFault_bind, yields_set_bind]

/-- A byte written below the first cell fails. -/
theorem yields_emit_bind_of_below {k : Nat} {v : Int} {f : Unit → LoadM α}
    (below : l.ptr + k < -(l.machine.ram.size : Int)) (bad : ∀ e, err e l) :
    Yields (emit k v >>= f) l ok err := by
  obtain ⟨e, failed⟩ := l.machine.ram.set_of_below (v := v) below
  rw [yields_emit_bind]
  exact ⟨fun _ _ => bad _, fun ram stored => by simp [failed] at stored⟩

theorem yields_operand_bind {ws : List String} {k : Nat} {f : Int → LoadM α}
    (bad : Source.numeral? ws k = none → ∀ e, err e l)
    (good : ∀ v, Source.numeral? ws k = some v → Yields (f v) l ok err) :
    Yields (operand ws k >>= f) l ok err := by
  unfold operand
  cases word : ws[k]? with
  | none => exact bad (by simp [Source.numeral?, word]) _
  | some w =>
    cases read : readInt w with
    | error e =>
      simp only [read, yields_throw_bind]
      exact bad (by simp [Source.numeral?, word, read, Except.toOption]) _
    | ok v =>
      simp only [read, pure_bind]
      exact good v (by simp [Source.numeral?, word, read, Except.toOption])

/-- Reading the numerals of words `k + 1` for each `k` of a list, in order. -/
theorem yields_mapM_operand_bind {ws : List String} (ks : List Nat) {f : List Int → LoadM α}
    (bad : ks.mapM (fun k => Source.numeral? ws (k + 1)) = none → ∀ e, err e l)
    (good : ∀ vs, ks.mapM (fun k => Source.numeral? ws (k + 1)) = some vs →
      Yields (f vs) l ok err) :
    Yields (ks.mapM (fun k => operand ws (k + 1)) >>= f) l ok err := by
  induction ks generalizing f with
  | nil => exact good [] rfl
  | cons k ks ih =>
    simp only [List.mapM_cons, bind_assoc, pure_bind]
    apply yields_operand_bind
    · intro missing
      exact bad (by simp [List.mapM_cons, missing])
    · intro v read
      apply ih
      · intro missing
        exact bad (by simp [List.mapM_cons, read, missing])
      · intro vs reads
        exact good (v :: vs) (by simp [List.mapM_cons, read, reads])

theorem yields_operands_bind {ws : List String} {n : Nat} {f : List Int → LoadM α}
    (bad : Source.numerals? ws n = none → ∀ e, err e l)
    (good : ∀ vs, Source.numerals? ws n = some vs → Yields (f vs) l ok err) :
    Yields (operands ws n >>= f) l ok err :=
  yields_mapM_operand_bind (List.range n) bad good

/-- A byte written at a cell in memory: it fails only on a value that is no byte. -/
theorem yields_emit_bind_of_within {k : Nat} {v : Int} {f : Unit → LoadM α}
    (small : (l.machine.ram.size : Int) ≤ Memory.wordHalf)
    (low : -(l.machine.ram.size : Int) ≤ l.ptr + k) (high : l.ptr + k < l.machine.ram.size)
    (good : Source.isByte v →
      Yields (f ()) { l with machine.ram := l.machine.ram.put (l.ptr + k) v.toNat } ok err)
    (bad : Source.isByte v = false → err (.fault .notAByte) l) :
    Yields (emit k v >>= f) l ok err := by
  rw [yields_emit_bind, Memory.set_of_within _ small low high]
  by_cases byte : Source.isByte v
  · simp only [byte, if_true, reduceCtorEq, false_imp_iff, implies_true, Except.ok.injEq,
      forall_eq', true_and]
    exact good byte
  · simp only [byte, Bool.false_eq_true, if_false, Except.error.injEq, forall_eq',
      reduceCtorEq, false_imp_iff, implies_true, and_true]
    exact bad (by simpa using byte)

/-- Writing bytes at cells that all lie in memory: it fails only on a value that is no byte, and
then leaves the memory at its size. -/
theorem yields_emitAll_bind {k : Nat} {vs : List Int} {f : Unit → LoadM α}
    (small : (l.machine.ram.size : Int) ≤ Memory.wordHalf)
    (low : -(l.machine.ram.size : Int) ≤ l.ptr + k)
    (high : l.ptr + k + vs.length ≤ l.machine.ram.size)
    (good : vs.all Source.isByte →
      Yields (f ()) { l with machine.ram := l.machine.ram.write (l.ptr + k) (vs.map Int.toNat) }
        ok err)
    (bad : ∀ e (ram : Memory), ram.size = l.machine.ram.size → vs.all Source.isByte = false →
      err e { l with machine.ram := ram }) :
    Yields (emitAll k vs >>= f) l ok err := by
  induction vs generalizing k l with
  | nil => exact good rfl
  | cons v vs ih =>
    simp only [emitAll, bind_assoc]
    have within : l.ptr + k < (l.machine.ram.size : Int) := by
      simp only [List.length_cons] at high
      omega
    apply yields_emit_bind_of_within small low within
    · intro byte
      apply ih
      · simpa using small
      · simp only [Memory.size_put]
        omega
      · simp only [Memory.size_put, List.length_cons] at high ⊢
        omega
      · intro rest
        have shifted : l.ptr + k + 1 = l.ptr + ((k + 1 : Nat) : Int) := by omega
        simpa [byte, rest, Memory.write, shifted] using good
      · intro e ram sized rest
        simpa using bad e ram (by simpa using sized) (by simp [rest])
    · intro notByte
      simpa using bad _ l.machine.ram rfl (by simp [notByte])

end Rules

end Loader

end LedMachine

namespace LedMachine

namespace Opcode

/-- Whether an instruction is loaded by reading a fixed list of operands and checking them: all
but the pixel instructions, wait and loop. -/
def checked : Opcode → Bool
  | .set | .clear | .wait | .loop => false
  | _ => true

theorem arity_eq_length_operands {op : Opcode} (fixed : op.takesPairs = false) :
    op.arity = op.operands.length := by
  cases op <;> simp_all [takesPairs, arity, operands]

theorem width_zero {op : Opcode} (fixed : op.takesPairs = false) :
    op.width 0 = op.operands.length + 1 := by
  cases op <;> simp_all [takesPairs, arity, operands, width]

theorem takesPairs_of_checked {op : Opcode} (h : op.checked = true) : op.takesPairs = false := by
  cases op <;> simp_all [checked, takesPairs]

theorem ne_loop_of_checked {op : Opcode} (h : op.checked = true) : op ≠ .loop := by
  rintro rfl
  simp [checked] at h

theorem ite_some_eq_none {α : Type} {p : Prop} [Decidable p] {a : α} {b : Option α} :
    (if p then some a else b) = none ↔ ¬p ∧ b = none := by
  by_cases h : p <;> simp [h]

/-- The checks the loader makes of a checked instruction's operands, and the byte range of what it
writes, pass exactly when each operand is of its kind. -/
theorem checkOperands_encode {op : Opcode} (h : op.checked = true) (size : Int) {vs : List Int}
    (len : vs.length = op.operands.length) :
    (op.checkOperands size vs = none ∧
      ((op.code : Int) :: op.encodeOperands vs).all Source.isByte = true) ↔
      (op.operands.zip vs).all (fun q => q.1.admits size q.2) = true := by
  -- the scratchpad's size stays folded: unfolding it inside `decide` breaks its instance
  have eight : (scratchSize : Int) = 8 := rfl
  match vs with
  | [] =>
    cases op <;> simp_all [checked, operands, checkOperands, encodeOperands, code, Source.isByte]
  | [a] =>
    cases op <;> simp [checked, operands, checkOperands, encodeOperands, code, Source.isByte,
      Operand.admits] at h len ⊢ <;> omega
  | [a, b] =>
    cases op <;> simp [checked, operands, checkOperands, encodeOperands, code, Source.isByte,
      Operand.admits, ite_some_eq_none] at h len ⊢ <;> omega
  | [a, b, c] =>
    cases op <;> simp [checked, operands, checkOperands, encodeOperands, code, Source.isByte,
      Operand.admits] at h len ⊢ <;> omega
  | _ :: _ :: _ :: _ :: _ => cases op <;> simp_all [operands]

/-- The bytes the loader writes for a checked instruction are its code and the bytes of its
operands. -/
theorem encodeOperands_toNat {op : Opcode} (h : op.checked = true) {vs : List Int}
    (len : vs.length = op.operands.length) :
    ((op.code : Int) :: op.encodeOperands vs).map Int.toNat =
      op.code :: List.zipWith Operand.byte op.operands vs := by
  match vs with
  | [] => cases op <;> simp_all [checked, operands, encodeOperands]
  | [a] => cases op <;> simp_all [checked, operands, encodeOperands, Operand.byte]
  | [a, b] => cases op <;> simp_all [checked, operands, encodeOperands, Operand.byte]
  | [a, b, c] => cases op <;> simp_all [checked, operands, encodeOperands, Operand.byte]
  | _ :: _ :: _ :: _ :: _ => cases op <;> simp_all [operands]

@[simp]
theorem length_encodeOperands (op : Opcode) (vs : List Int) :
    (op.encodeOperands vs).length = vs.length := by
  unfold encodeOperands
  split <;> simp

end Opcode

namespace Source

theorem length_of_mapM_some {α β : Type} {f : α → Option β} {xs : List α} {ys : List β}
    (h : xs.mapM f = some ys) : ys.length = xs.length := by
  induction xs generalizing ys with
  | nil =>
    simp only [List.mapM_nil] at h
    cases h
    rfl
  | cons x xs ih =>
    simp only [List.mapM_cons, Option.bind_eq_bind, Option.bind_eq_some_iff,
      Option.pure_def, Option.some.injEq] at h
    obtain ⟨y, _, ys', rest, rfl⟩ := h
    simp [ih rest]

theorem length_of_numerals? {ws : List String} {n : Nat} {vs : List Int}
    (h : numerals? ws n = some vs) : vs.length = n := by
  simpa using length_of_mapM_some h

theorem numerals?_one (ws : List String) : numerals? ws 1 = (numeral? ws 1).map ([·]) := by
  cases h : numeral? ws 1 <;> simp [numerals?, List.range_succ, h]

theorem instr?_of_fixed {size : Int} {op : Opcode} (fixed : op.takesPairs = false)
    (ws : List String) :
    instr? size op ws = (numerals? ws op.operands.length).bind fun vs =>
      if (op.operands.zip vs).all (fun q => q.1.admits size q.2) then
        some ⟨op, List.zipWith Operand.byte op.operands vs⟩
      else none := by
  simp [instr?, fixed]

theorem instr?_fixed_eq_some {size : Int} {op : Opcode} (fixed : op.takesPairs = false)
    {ws : List String} {i : Instr} (made : instr? size op ws = some i) :
    ∃ vs, numerals? ws op.operands.length = some vs ∧
      (op.operands.zip vs).all (fun q => q.1.admits size q.2) = true ∧
      i = ⟨op, List.zipWith Operand.byte op.operands vs⟩ := by
  rw [instr?_of_fixed fixed, Option.bind_eq_some_iff] at made
  obtain ⟨vs, read, admitted⟩ := made
  split at admitted
  · cases admitted
    exact ⟨vs, read, by assumption, rfl⟩
  · cases admitted

theorem instr?_pixels_eq_some {size : Int} {op : Opcode} (pixels : op.takesPairs = true)
    {ws : List String} {i : Instr} (made : instr? size op ws = some i) :
    ∃ ps, readPairs ws.tail = .ok ps ∧
      (0 < ps.length ∧ ps.length < 256 ∧ ps.all (fun q => isByte q.1 && isByte q.2) = true) ∧
      i = ⟨op, ps.length :: ps.flatMap fun q => [q.1.toNat, q.2.toNat]⟩ := by
  simp only [instr?, pixels, if_true] at made
  split at made
  · rename_i ps read
    split at made
    · cases made
      exact ⟨ps, read, by assumption, rfl⟩
    · cases made
  · cases made

theorem instr?_wait (size : Int) (ws : List String) :
    instr? size .wait ws =
      (numeral? ws 1).bind fun v => if isByte v then some ⟨.wait, [v.toNat]⟩ else none := by
  rw [instr?_of_fixed (show Opcode.wait.takesPairs = false from rfl)]
  simp only [Opcode.operands, List.length_singleton, numerals?_one]
  cases numeral? ws 1 <;> simp [Operand.admits, Operand.byte, isByte]

theorem instr?_loop (size : Int) (ws : List String) : instr? size .loop ws = some ⟨.loop, []⟩ := by
  simp [instr?_of_fixed (show Opcode.loop.takesPairs = false from rfl), Opcode.operands, numerals?]

theorem length_flatMap_pairs (ps : List (Int × Int)) :
    (ps.flatMap fun (x, y) => [x, y]).length = 2 * ps.length := by
  induction ps with
  | nil => rfl
  | cons q ps ih =>
    obtain ⟨x, y⟩ := q
    simp only [List.flatMap_cons, List.length_append, ih, List.length_cons, List.length_nil]
    omega

theorem toNat_flatMap_pairs (ps : List (Int × Int)) :
    (ps.flatMap fun (x, y) => [x, y]).map Int.toNat =
      ps.flatMap fun q => [q.1.toNat, q.2.toNat] := by
  induction ps with
  | nil => rfl
  | cons q ps ih => simp [List.flatMap_cons, ih]

theorem size_pixels (op : Opcode) (ps : List (Int × Int)) :
    (Instr.mk op (ps.length :: ps.flatMap fun q => [q.1.toNat, q.2.toNat])).size =
      2 + 2 * ps.length := by
  rw [Instr.size, List.length_cons, ← toNat_flatMap_pairs, List.length_map, length_flatMap_pairs]
  omega

theorem isByte_flatMap_pairs (ps : List (Int × Int)) :
    (ps.flatMap fun (x, y) => [x, y]).all isByte = ps.all (fun q => isByte q.1 && isByte q.2) := by
  induction ps with
  | nil => rfl
  | cons q ps ih => simp [List.flatMap_cons, ih, Bool.and_assoc]

@[simp]
theorem size_zipWith (op : Opcode) {vs : List Int} (len : vs.length = op.operands.length) :
    (Instr.mk op (List.zipWith Operand.byte op.operands vs)).size = op.operands.length + 1 := by
  simp [Instr.size, len]

end Source

end LedMachine

namespace LedMachine

/-- Whether a statement can be loaded with the load pointer at `p`: an instruction must fit. -/
def Stmt.fitsAt (size p : Int) : Stmt → Bool
  | .entry _ => true
  | .instr i => Source.fits size p i.size

namespace Loader

/-- A line that stands for `s?` was loaded from `l` as that statement, which fits at the load
pointer, leaving `l'`. -/
def Took (l : Loader) (line : Nat) (s? : Option Stmt) (l' : Loader) : Prop :=
  ∃ s, s? = some s ∧ s.fitsAt l.machine.size l.ptr = true ∧ l' = l.place line s

/-- A line that stands for `s?` failed from `l`, leaving `l'`: it stands for no statement that
fits at the load pointer. -/
def Refused (l : Loader) (s? : Option Stmt) (l' : Loader) : Prop :=
  (∀ s, s? = some s → s.fitsAt l.machine.size l.ptr = false) ∧ l.Spoils l'

@[simp] theorem noting_ptr (l : Loader) (line : Nat) : (l.noting line).ptr = l.ptr := rfl
@[simp] theorem noting_size (l : Loader) (line : Nat) :
    (l.noting line).machine.size = l.machine.size := rfl
@[simp] theorem noting_ram (l : Loader) (line : Nat) :
    (l.noting line).machine.ram = l.machine.ram := rfl
@[simp] theorem noting_pc (l : Loader) (line : Nat) :
    (l.noting line).machine.pc = l.machine.pc := rfl
@[simp] theorem noting_entry (l : Loader) (line : Nat) :
    (l.noting line).machine.entry = l.machine.entry := rfl

section Line

variable {l : Loader} (line : Nat)
  (cells : (l.machine.ram.size : Int) = l.machine.size) (small : l.machine.size ≤ Memory.wordHalf)
include cells small

theorem yields_operandInstruction {op : Opcode} (checked : op.checked = true) (ws : List String) :
    Yields (operandInstruction line op ws) l
      (fun _ => Took l line ((Source.instr? l.machine.size op ws).map .instr))
      (fun _ => Refused l ((Source.instr? l.machine.size op ws).map .instr)) := by
  have fixed := Opcode.takesPairs_of_checked checked
  unfold operandInstruction
  rw [yields_mark_bind]
  simp only [Opcode.width_zero fixed]
  rw [yields_room_bind]
  simp only [noting_ptr, noting_size]
  constructor
  · intro short
    refine ⟨fun s made => ?_, Spoils.noting l line⟩
    obtain ⟨i, found, rfl⟩ := Option.map_eq_some_iff.mp made
    obtain ⟨vs, read, -, rfl⟩ := Source.instr?_fixed_eq_some fixed found
    simp [Stmt.fitsAt, Source.length_of_numerals? read]
    omega
  · intro room
    apply yields_operands_bind
    · intro missing _
      refine ⟨fun s made => ?_, Spoils.noting l line⟩
      obtain ⟨i, found, rfl⟩ := Option.map_eq_some_iff.mp made
      obtain ⟨vs, read, -, -⟩ := Source.instr?_fixed_eq_some fixed found
      rw [← Opcode.arity_eq_length_operands fixed, missing] at read
      cases read
    · intro vs read
      have len : vs.length = op.operands.length := by
        rw [Source.length_of_numerals? read, Opcode.arity_eq_length_operands fixed]
      rw [Opcode.arity_eq_length_operands fixed] at read
      -- a statement of this line is the instruction of exactly these operands
      have only : ∀ s, (Source.instr? l.machine.size op ws).map Stmt.instr = some s →
          (op.operands.zip vs).all (fun q => q.1.admits l.machine.size q.2) = true ∧
            s = Stmt.instr ⟨op, List.zipWith Operand.byte op.operands vs⟩ := by
        intro s made
        obtain ⟨i, found, rfl⟩ := Option.map_eq_some_iff.mp made
        obtain ⟨vs', read', admitted, rfl⟩ := Source.instr?_fixed_eq_some fixed found
        rw [read] at read'
        cases read'
        exact ⟨admitted, rfl⟩
      simp only [yields_get_bind, noting_size]
      cases check : op.checkOperands l.machine.size vs with
      | some e =>
        rw [yields_throw_bind]
        refine ⟨fun s made => ?_, Spoils.noting l line⟩
        have passed := ((Opcode.checkOperands_encode checked _ len).mpr (only s made).1).1
        rw [check] at passed
        cases passed
      | none =>
        by_cases low : -l.machine.size ≤ l.ptr
        · apply yields_emitAll_bind
          · simpa [cells] using small
          · simpa [cells] using low
          · simp only [noting_ram, noting_ptr, List.length_cons, Opcode.length_encodeOperands, len,
              cells]
            omega
          · intro bytes
            have admitted := (Opcode.checkOperands_encode checked _ len).mp ⟨check, bytes⟩
            rw [yields_skip]
            refine ⟨.instr ⟨op, List.zipWith Operand.byte op.operands vs⟩, ?_, ?_, ?_⟩
            · simp [Source.instr?_of_fixed fixed, read, admitted]
            · simp only [Stmt.fitsAt, Source.fits_eq_true, Source.size_zipWith op len]
              omega
            · simp [place, Instr.bytes, Instr.size, Opcode.encodeOperands_toNat checked len, len,
                Opcode.ne_loop_of_checked checked]
          · intro e ram sized bytes
            refine ⟨fun s made => ?_, ram, _, l.machine.pc, by simpa using sized, .inl rfl, rfl⟩
            have passed := ((Opcode.checkOperands_encode checked _ len).mpr (only s made).1).2
            rw [bytes] at passed
            cases passed
        · simp only [emitAll, bind_assoc]
          apply yields_emit_bind_of_below
          · simp only [noting_ptr, noting_ram, cells]
            omega
          · intro _
            refine ⟨fun s made => ?_, Spoils.noting l line⟩
            rw [(only s made).2]
            simp only [Stmt.fitsAt, Source.fits_eq_false, Source.size_zipWith op len]
            omega

theorem yields_pixelInstruction {op : Opcode} (pixels : op.takesPairs = true) (ws : List String) :
    Yields (pixelInstruction line op ws) l
      (fun _ => Took l line ((Source.instr? l.machine.size op ws).map Stmt.instr))
      (fun _ => Refused l ((Source.instr? l.machine.size op ws).map Stmt.instr)) := by
  have code : (op.code : Int) < 256 := by
    cases op <;> simp_all [Opcode.takesPairs, Opcode.code]
  unfold pixelInstruction
  rw [yields_mark_bind]
  cases read : Source.readPairs ws.tail with
  | error e =>
    simp only [yields_throw_bind]
    refine ⟨fun s made => ?_, Spoils.noting l line⟩
    obtain ⟨i, found, rfl⟩ := Option.map_eq_some_iff.mp made
    obtain ⟨ps, read', -⟩ := Source.instr?_pixels_eq_some pixels found
    rw [read] at read'
    cases read'
  | ok ps =>
    -- a statement of this line is the instruction of exactly these pairs
    have only : ∀ s, (Source.instr? l.machine.size op ws).map Stmt.instr = some s →
        (0 < ps.length ∧ ps.length < 256 ∧
          ps.all (fun q => Source.isByte q.1 && Source.isByte q.2) = true) ∧
        s = .instr ⟨op, ps.length :: ps.flatMap fun q => [q.1.toNat, q.2.toNat]⟩ := by
      intro s made
      obtain ⟨i, found, rfl⟩ := Option.map_eq_some_iff.mp made
      obtain ⟨ps', read', wellFormed, rfl⟩ := Source.instr?_pixels_eq_some pixels found
      rw [read] at read'
      cases read'
      exact ⟨wellFormed, rfl⟩
    have width : op.width ps.length = 2 + 2 * ps.length := by
      cases op <;> simp_all [Opcode.takesPairs, Opcode.width]
    simp only [pure_bind]
    rw [yields_ite]
    refine ⟨fun empty => ?_, fun present => ?_⟩
    · rw [yields_throw_bind]
      refine ⟨fun s made => ?_, Spoils.noting l line⟩
      have := (only s made).1.1
      simp_all
    rw [yields_room_bind]
    simp only [noting_ptr, noting_size, width]
    refine ⟨fun short => ⟨fun s made => ?_, Spoils.noting l line⟩, fun room => ?_⟩
    · rw [(only s made).2]
      simp only [Stmt.fitsAt, Source.fits_eq_false, Source.size_pixels]
      omega
    by_cases low : -l.machine.size ≤ l.ptr
    · apply yields_emitAll_bind
      · simpa [cells] using small
      · simpa [cells] using low
      · simp only [noting_ram, noting_ptr, List.length_append, List.length_cons, List.length_nil,
          Source.length_flatMap_pairs, cells]
        omega
      · intro bytes
        simp only [List.all_append, List.all_cons, List.all_nil, Source.isByte_flatMap_pairs,
          Bool.and_true, Bool.and_eq_true, Source.isByte, decide_eq_true_eq] at bytes
        rw [yields_skip]
        refine ⟨.instr ⟨op, ps.length :: ps.flatMap fun q => [q.1.toNat, q.2.toNat]⟩, ?_, ?_, ?_⟩
        · simp only [Source.instr?, pixels, if_true, read]
          have nonempty : 0 < ps.length := by
            cases ps
            · simp at present
            · simp
          simp only [nonempty, true_and, Source.isByte]
          rw [if_pos ⟨by omega, bytes.2⟩]
          rfl
        · simp only [Stmt.fitsAt, Source.fits_eq_true, Source.size_pixels]
          omega
        · have notLoop : op ≠ .loop := by
            rintro rfl
            simp [Opcode.takesPairs] at pixels
          simp [place, Instr.bytes, Source.size_pixels, Source.toNat_flatMap_pairs, notLoop]
      · intro e ram sized bytes
        refine ⟨fun s made => ?_, ram, _, l.machine.pc, by simpa using sized, .inl rfl, rfl⟩
        obtain ⟨⟨_, short, pairs⟩, -⟩ := only s made
        rw [List.cons_append, List.cons_append, List.nil_append, List.all_cons, List.all_cons,
          Source.isByte_flatMap_pairs, pairs] at bytes
        simp only [Source.isByte, Bool.and_true, Bool.and_eq_false_iff, decide_eq_false_iff_not]
          at bytes
        omega
    · simp only [List.cons_append, emitAll, bind_assoc]
      apply yields_emit_bind_of_below
      · simp only [noting_ptr, noting_ram, cells]
        omega
      · intro _
        refine ⟨fun s made => ?_, Spoils.noting l line⟩
        rw [(only s made).2]
        simp only [Stmt.fitsAt, Source.fits_eq_false]
        omega

theorem yields_waitInstruction (ws : List String) :
    Yields (instruction line .wait ws) l
      (fun _ => Took l line ((Source.instr? l.machine.size .wait ws).map Stmt.instr))
      (fun _ => Refused l ((Source.instr? l.machine.size .wait ws).map Stmt.instr)) := by
  -- every instruction of a wait line takes two bytes, the second its operand
  have only : ∀ s, (Source.instr? l.machine.size .wait ws).map Stmt.instr = some s →
      ∃ v, Source.numeral? ws 1 = some v ∧ Source.isByte v ∧ s = .instr ⟨.wait, [v.toNat]⟩ := by
    intro s made
    rw [Source.instr?_wait] at made
    cases read : Source.numeral? ws 1 with
    | none => simp [read] at made
    | some v =>
      by_cases byte : Source.isByte v
      · simp only [read, Option.bind_some, byte, if_true, Option.map_some,
          Option.some.injEq] at made
        exact ⟨v, rfl, byte, made.symm⟩
      · simp [read, byte] at made
  unfold instruction
  rw [yields_mark_bind, yields_room_bind]
  simp only [noting_ptr, noting_size]
  refine ⟨fun short => ⟨fun s made => ?_, Spoils.noting l line⟩, fun room => ?_⟩
  · obtain ⟨v, -, -, rfl⟩ := only s made
    simp only [Stmt.fitsAt, Source.fits_eq_false, Instr.size, List.length_singleton]
    omega
  by_cases low : -l.machine.size ≤ l.ptr
  · apply yields_emit_bind_of_within
    · simpa [cells] using small
    · simpa [cells] using low
    · simp only [noting_ram, noting_ptr, cells]
      omega
    · intro _
      apply yields_operand_bind
      · intro missing _
        refine ⟨fun s made => ?_, _, _, l.machine.pc, by simp, .inl rfl, rfl⟩
        obtain ⟨v, read, -⟩ := only s made
        rw [missing] at read
        cases read
      · intro v read
        apply yields_emit_bind_of_within
        · simpa [cells] using small
        · simp only [noting_ram, noting_ptr, Memory.size_put, cells]
          omega
        · simp only [noting_ram, noting_ptr, Memory.size_put, cells]
          omega
        · intro byte
          rw [yields_skip]
          refine ⟨.instr ⟨.wait, [v.toNat]⟩, by simp [Source.instr?_wait, read, byte], ?_, ?_⟩
          · simp only [Stmt.fitsAt, Source.fits_eq_true, Instr.size, List.length_singleton]
            omega
          · simp [place, Instr.bytes, Instr.size, Memory.write, Opcode.code]
        · intro notByte
          refine ⟨fun s made => ?_, _, _, l.machine.pc, by simp, .inl rfl, rfl⟩
          obtain ⟨v', read', byte, -⟩ := only s made
          rw [read] at read'
          cases read'
          rw [byte] at notByte
          cases notByte
    · intro notByte
      simp [Source.isByte, Opcode.code] at notByte
  · apply yields_emit_bind_of_below
    · simp only [noting_ptr, noting_ram, cells]
      omega
    · intro _
      refine ⟨fun s made => ?_, Spoils.noting l line⟩
      obtain ⟨v, -, -, rfl⟩ := only s made
      simp only [Stmt.fitsAt, Source.fits_eq_false]
      omega

theorem yields_loopInstruction (ws : List String) :
    Yields (instruction line .loop ws) l
      (fun _ => Took l line ((Source.instr? l.machine.size .loop ws).map Stmt.instr))
      (fun _ => Refused l ((Source.instr? l.machine.size .loop ws).map Stmt.instr)) := by
  -- the counter moves to the entry point before anything is checked
  have spoils : ∀ ram lines, ram.size = l.machine.ram.size → l.Spoils
      { l with machine.ram := ram, machine.lines := lines, machine.pc := l.machine.entry } :=
    fun ram lines sized => ⟨ram, lines, _, sized, .inr rfl, rfl⟩
  unfold instruction
  simp only [Source.instr?_loop, Option.map_some]
  rw [yields_modify_bind, yields_mark_bind, yields_room_bind]
  simp only [noting_ptr, noting_size]
  refine ⟨fun short => ⟨fun s made => ?_, spoils _ _ rfl⟩, fun room => ?_⟩
  · cases made
    simp only [Stmt.fitsAt, Source.fits_eq_false, Instr.size, List.length_nil]
    omega
  by_cases low : -l.machine.size ≤ l.ptr
  · apply yields_emit_bind_of_within
    · simpa [cells] using small
    · simpa [cells] using low
    · simp only [noting_ram, noting_ptr, cells]
      omega
    · intro _
      rw [yields_skip]
      refine ⟨.instr ⟨.loop, []⟩, rfl, ?_, ?_⟩
      · simp only [Stmt.fitsAt, Source.fits_eq_true, Instr.size, List.length_nil]
        omega
      · simp [place, noting, Instr.bytes, Instr.size, Memory.write, Opcode.code]
    · intro notByte
      simp [Source.isByte, Opcode.code] at notByte
  · apply yields_emit_bind_of_below
    · simp only [noting_ptr, noting_ram, cells]
      omega
    · intro _
      refine ⟨fun s made => ?_, spoils _ _ rfl⟩
      cases made
      simp only [Stmt.fitsAt, Source.fits_eq_false]
      omega

/-- An instruction line loads as the instruction it stands for, if that fits. -/
theorem yields_instruction (op : Opcode) (ws : List String) :
    Yields (instruction line op ws) l
      (fun _ => Took l line ((Source.instr? l.machine.size op ws).map Stmt.instr))
      (fun _ => Refused l ((Source.instr? l.machine.size op ws).map Stmt.instr)) := by
  cases op
  case set => exact yields_pixelInstruction line cells small rfl ws
  case clear => exact yields_pixelInstruction line cells small rfl ws
  case wait => exact yields_waitInstruction line cells small ws
  case loop => exact yields_loopInstruction line cells small ws
  all_goals exact yields_operandInstruction line cells small rfl ws

/-- A line of words loads as the statement it stands for, if that fits. -/
theorem yields_words {ws : List String} (nonempty : ws ≠ []) :
    Yields (words line ws) l (fun _ => Took l line (Source.stmt? l.machine.size ws))
      (fun _ => Refused l (Source.stmt? l.machine.size ws)) := by
  obtain ⟨cmd, rest, rfl⟩ := List.exists_cons_of_ne_nil nonempty
  unfold words
  by_cases ep : cmd = "EP"
  · -- the entry point directive: read, checked against the size, then set
    simp only [ep, if_true]
    rw [yields_mark_bind]
    apply yields_operand_bind
    · intro missing _
      refine ⟨fun s made => ?_, Spoils.noting l line⟩
      simp [Source.stmt?, missing] at made
    · intro v read
      rw [yields_get_bind, yields_ite]
      simp only [noting_size]
      refine ⟨fun beyond => ?_, fun within => ?_⟩
      · rw [yields_throw_bind]
        refine ⟨fun s made => ?_, Spoils.noting l line⟩
        simp only [Source.stmt?, if_true, read, Option.bind_some] at made
        rw [if_neg (by omega)] at made
        cases made
      · rw [yields_modify]
        refine ⟨.entry v, ?_, rfl, rfl⟩
        simp only [Source.stmt?, if_true, read, Option.bind_some]
        rw [if_pos (by omega)]
  · simp only [ep, if_false, Source.stmt?]
    cases known : Opcode.ofMnemonic? cmd with
    | some op =>
      simpa using yields_instruction line cells small op (cmd :: rest)
    | none =>
      rw [yields_throw]
      exact ⟨fun s made => by simp at made,
        l.machine.ram, l.machine.lines, l.machine.pc, rfl, .inl rfl, rfl⟩

end Line

@[simp]
theorem size_place (l : Loader) (line : Nat) (s : Stmt) :
    (l.place line s).machine.size = l.machine.size := by
  cases s <;> rfl

@[simp]
theorem cells_place (l : Loader) (line : Nat) (s : Stmt) :
    (l.place line s).machine.ram.size = l.machine.ram.size := by
  cases s <;> simp [place]

@[simp]
theorem ptr_place_entry (l : Loader) (line : Nat) (v : Int) :
    (l.place line (.entry v)).ptr = v := rfl

@[simp]
theorem ptr_place_instr (l : Loader) (line : Nat) (i : Instr) :
    (l.place line (.instr i)).ptr = l.ptr + i.size := rfl

/-- What loading lines from `l` did, against their layout `lay`: it stopped at the layout's first
failing line, kept the memory's size, left the entry point last set and the counter at one of the
entry points or where it was, and, stopping at no line, wrote every instruction of the layout at
its address. -/
structure Follows (l : Loader) (lay : Layout) (r : Loader × Option (Nat × LineError)) : Prop where
  stop : r.2.map Prod.fst = lay.stop
  size : r.1.machine.size = l.machine.size
  cells : r.1.machine.ram.size = l.machine.ram.size
  entry : r.1.machine.entry = lay.entries.getLast?.getD l.machine.entry
  pc : r.1.machine.pc ∈ l.machine.pc :: l.machine.entry :: lay.entries
  ram : r.2 = none →
    r.1.machine.ram = lay.placed.foldl (fun ram pl => ram.write pl.addr pl.instr.bytes)
      l.machine.ram

namespace Follows

variable {l : Loader} {line : Nat} {lay : Layout} {r : Loader × Option (Nat × LineError)}

theorem nil (l : Loader) (p : Int) : Follows l ⟨[], [], p, none⟩ (l, none) :=
  ⟨rfl, rfl, rfl, rfl, List.mem_cons_self, fun _ => rfl⟩

/-- A line that fails ends loading there. -/
theorem refused {l' : Loader} {e : LineError} (p : Int) (spoils : l.Spoils l') :
    Follows l ⟨[], [], p, some line⟩ (l', some (line, e)) := by
  obtain ⟨ram, lines, pc, sized, moved, rfl⟩ := spoils
  refine ⟨rfl, rfl, sized, rfl, ?_, fun stopped => by cases stopped⟩
  rcases moved with rfl | rfl <;> simp

/-- An entry point adds to what the lines after it did. -/
theorem cons_entry {v : Int} (h : Follows (l.place line (.entry v)) lay r) :
    Follows l { lay with entries := v :: lay.entries } r := by
  refine ⟨h.stop, h.size, h.cells, ?_, ?_, h.ram⟩
  · rw [h.entry]
    simp [place, List.getLast?_cons]
  · have pc := h.pc
    simp only [place, noting, List.mem_cons] at pc ⊢
    rcases pc with same | same | same <;> simp [same]

/-- An instruction adds to what the lines after it did. -/
theorem cons_instr {i : Instr} (h : Follows (l.place line (.instr i)) lay r) :
    Follows l { lay with placed := ⟨line, l.ptr, i⟩ :: lay.placed } r := by
  refine ⟨h.stop, h.size, by simpa using h.cells, h.entry, ?_, fun stopped => ?_⟩
  · have pc := h.pc
    simp only [place, noting, List.mem_cons] at pc ⊢
    split at pc <;> rcases pc with same | same | same <;> simp [same]
  · exact h.ram stopped

end Follows

/-- Loading lines does what their layout says. -/
theorem lines_follow (n : Nat) (L : List String) (l : Loader)
    (cells : (l.machine.ram.size : Int) = l.machine.size)
    (small : l.machine.size ≤ Memory.wordHalf) :
    Follows l (Source.layout l.machine.size n l.ptr L) (lines n L l) := by
  induction L generalizing n l with
  | nil => exact Follows.nil l l.ptr
  | cons raw rest ih =>
    -- one step of loading and of the layout, each opened once by its definition; the matches
    -- close as the line is read
    rw [Source.layout.eq_def, lines.eq_def]
    dsimp only
    cases found : Source.words? raw with
    | none =>
      simp only
      exact ih (n + 1) l cells small
    | some ws =>
      cases ws with
      | nil =>
        simp only [words]
        exact ih (n + 1) l cells small
      | cons w ws =>
        have loads := yields_words n cells small (List.cons_ne_nil w ws)
        cases run : (words n (w :: ws)).run l with
        | ok u l' =>
          obtain ⟨s, made, fits, rfl⟩ := loads.of_ok run
          have next := ih (n + 1) (l.place n s) (by simpa using cells) (by simpa using small)
          cases s with
          | entry v =>
            simp only [run, made]
            exact Follows.cons_entry (by simpa using next)
          | instr i =>
            simp only [Stmt.fitsAt] at fits
            simp only [run, made, fits, if_true]
            exact Follows.cons_instr (by simpa using next)
        | error e l' =>
          obtain ⟨unfit, spoils⟩ := loads.of_error run
          simp only [run]
          cases made : Source.stmt? l.machine.size (w :: ws) with
          | none => exact Follows.refused l.ptr spoils
          | some s =>
            have unfit := unfit s made
            cases s with
            | entry v => cases unfit
            | instr i =>
              simp only [Stmt.fitsAt] at unfit
              simp only [unfit, Bool.false_eq_true, if_false]
              exact Follows.refused l.ptr spoils

end Loader

end LedMachine
