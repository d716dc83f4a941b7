import LedMachine.Proofs.Effects
import LedMachine.Proofs.Guards
import LedMachine.Proofs.Timing

/-!
# The reference reading of an instruction

`Machine.effect` says what an instruction does in the terms of the instruction set's own table:
its operands are read before anything is written, a memory address must lie below the size and a
scratchpad address below eight, and then the one write, the pixels and the counter change as the
opcode says, and nothing else. `Machine.reference` applies it to the instruction that
`Memory.decode` fetches at the counter.

On a regular machine (its declared size that of its memory, its scratchpad eight bytes) with no
wait pending and its counter naming a cell, a step is that reading (`step_obeys`): where the
reading has a result the step returns it, and where it has none the step stops the machine, at a
blank cell with nothing else changed, or raising an alarm (`Raised`). Two consequences: `step_follows_reference` reads the step's result
off the reference, and `step_raises_only_below_memory` finds the one place a step can fault, a
counter below the start of memory.
-/

namespace LedMachine

namespace Memory

/-- The byte held at a position, read as a number. -/
def byteAt (m : Memory) (p : Nat) : Nat := (m.cells.getD p 0).toNat

theorem byteAt_lt (m : Memory) (p : Nat) : m.byteAt p < 256 := UInt8.toNat_lt _

variable {m : Memory}

/-! ## Cells and runs of cells -/

theorem fitsWord_of_within (small : (m.size : Int) ≤ wordHalf) {i : Int}
    (low : -(m.size : Int) ≤ i) (high : i < m.size) : fitsWord i = true := by
  simp only [fitsWord, decide_eq_true_eq]
  omega

/-- A cell named by its position reads the byte it holds. -/
theorem get_natCast (small : (m.size : Int) ≤ wordHalf) {p : Nat} (inside : p < m.size) :
    m.get p = .ok (m.byteAt p) := by
  have named : position? m.size (p : Int) = some p := by
    simp [position?, inside]
  have cell : m.cells[p]? = some m.cells[p] := by simp [size] at inside; simp [inside]
  rw [get_of_cell m (fitsWord_of_within small (by omega) (by omega)) named cell]
  simp [byteAt, Array.getD, size] at inside ⊢
  simp [inside]

/-- Every index from minus the size up to the size names a cell, counted from the front or the
back. -/
theorem get_within (small : (m.size : Int) ≤ wordHalf) {i : Int} (low : -(m.size : Int) ≤ i)
    (high : i < m.size) : ∃ b, m.get i = .ok b := by
  have named := position?_of_within low high
  have inside := position?_lt named
  exact ⟨_, get_of_cell m (fitsWord_of_within small low high) named
    (Array.getElem?_eq_getElem inside)⟩

/-- No other index names a cell. -/
theorem get_outside {i : Int} (outside : i < -(m.size : Int) ∨ (m.size : Int) ≤ i) :
    ∃ e, m.get i = .error e := by
  unfold get
  split
  · exact ⟨_, rfl⟩
  · have none : position? m.size i = none := by
      unfold position?
      split <;> (split <;> first | rfl | omega)
    simp [none]

/-- Every index that names no cell is an index error, too wide or out of range. -/
theorem kind_of_get_error {i : Int} {e : Fault} (fails : m.get i = .error e) :
    e.kind = "IndexError" := by
  unfold get at fails
  split at fails
  · cases fails
    rfl
  · split at fails
    · cases fails
    · cases fails
      rfl

/-- An index that reads lies below the size. -/
theorem lt_of_get {i : Int} {b : Nat} (read : m.get i = .ok b) : i < m.size := by
  obtain ⟨-, p, named⟩ := get_ok read
  have inside := position?_lt named
  unfold position? at named
  split at named
  · split at named
    · assumption
    · cases named
  · omega

theorem set_natCast (small : (m.size : Int) ≤ wordHalf) {p v : Nat} (inside : p < m.size)
    (byte : v < 256) : m.set p v = .ok (m.put p v) := by
  rw [set_of_within m small (by omega) (by omega)]
  simp [Source.isByte, show (v : Int) < 256 by omega]

theorem readBytes_succ_of_get {a : Int} {b n : Nat} (read : m.get a = .ok b) :
    m.readBytes a (n + 1) = (m.readBytes (a + 1) n).map (b :: ·) := by
  simp [readBytes, read, Except.toOption]
  cases m.readBytes (a + 1) n <;> rfl

theorem Holds.nil (a : Int) : m.Holds a [] := fun k hk => absurd hk (Nat.not_lt_zero k)

theorem Holds.cons {a : Int} {b : Nat} {bs : List Nat} (head : m.get a = .ok b)
    (tail : m.Holds (a + 1) bs) : m.Holds a (b :: bs) := by
  intro k hk
  cases k with
  | zero => simpa using head
  | succ k =>
    have read := tail k (by simpa using hk)
    rwa [show a + 1 + (k : Int) = a + ((k + 1 : Nat) : Int) by omega] at read

/-- A run of indices from minus the size up to the size reads; a nonempty run that passes the
size does not. -/
theorem readBytes_within (small : (m.size : Int) ≤ wordHalf) :
    ∀ {a : Int} {n : Nat}, -(m.size : Int) ≤ a → a + n ≤ m.size → ∃ bs, m.readBytes a n = some bs
  | _, 0, _, _ => ⟨[], rfl⟩
  | a, n + 1, low, high => by
    obtain ⟨b, read⟩ := get_within small low (by omega)
    obtain ⟨bs, rest⟩ := readBytes_within small (a := a + 1) (n := n) (by omega) (by omega)
    exact ⟨b :: bs, by rw [readBytes_succ_of_get read, rest]; rfl⟩

theorem readBytes_beyond : ∀ {a : Int} {n : Nat}, 0 < n → (m.size : Int) < a + n →
    m.readBytes a n = none
  | _, 0, pos, _ => absurd pos (Nat.lt_irrefl 0)
  | a, n + 1, _, beyond => by
    cases read : m.get a with
    | error e => simp [readBytes, read, Except.toOption]
    | ok b =>
      have inside := lt_of_get read
      rw [readBytes_succ_of_get read, readBytes_beyond (by omega) (by omega)]
      rfl

/-- What a run reads is what the memory holds there. -/
theorem holds_of_readBytes : ∀ {a : Int} {n : Nat} {bs : List Nat}, m.readBytes a n = some bs →
    m.Holds a bs ∧ bs.length = n
  | _, 0, bs, read => by
    cases read
    exact ⟨Holds.nil _, rfl⟩
  | a, n + 1, bs, read => by
    cases got : m.get a with
    | error e => simp [readBytes, got, Except.toOption] at read
    | ok b =>
      rw [readBytes_succ_of_get got] at read
      obtain ⟨rest, found, rfl⟩ := Option.map_eq_some_iff.mp read
      obtain ⟨held, length⟩ := holds_of_readBytes found
      exact ⟨Holds.cons got held, by simp [length]⟩

/-! ## Decoding -/

section Decoding

variable {mem : Memory} {a : Int} {op : Opcode}

/-- What decoding gives, one lemma for each way the code byte and the count turn out. -/
theorem decode_unknown {b : Nat} (code : mem.get a = .ok b) (unknown : Opcode.ofCode? b = none) :
    mem.decode a = none := by
  simp [decode, code, Except.toOption, unknown]

theorem decode_fixed (code : mem.get a = .ok op.code) (fixed : op.takesPairs = false) :
    mem.decode a = (mem.readBytes (a + 1) op.arity).map fun args => (⟨op, args⟩, a + 1 + op.arity) := by
  simp [decode, code, Except.toOption, fixed]
  cases mem.readBytes (a + 1) op.arity <;> rfl

theorem decode_pairs (code : mem.get a = .ok op.code) (pairs : op.takesPairs = true) {count : Nat}
    (counted : mem.get (a + 1) = .ok count) :
    mem.decode a = (mem.readBytes (a + 2) (2 * count)).map
      fun coords => (⟨op, count :: coords⟩, a + 2 + 2 * count) := by
  simp [decode, code, Except.toOption, pairs, counted]
  cases mem.readBytes (a + 2) (2 * count) <;> rfl

theorem decode_uncounted {e : Fault} (code : mem.get a = .ok op.code) (pairs : op.takesPairs = true)
    (uncounted : mem.get (a + 1) = .error e) : mem.decode a = none := by
  simp [decode, code, Except.toOption, pairs, uncounted]

end Decoding

end Memory

namespace Opcode

theorem combine_lt (op : Opcode) {x y : Nat} (hx : x < 256) (hy : y < 256) :
    op.combine x y < 256 := by
  have hx' : x < 2 ^ 8 := hx
  have hy' : y < 2 ^ 8 := hy
  cases op <;> simp only [Opcode.combine]
  case add => omega
  case bitAnd => exact Nat.and_lt_two_pow x hy'
  case bitOr => exact Nat.or_lt_two_pow hx' hy'
  case bitXor => exact Nat.xor_lt_two_pow hx' hy'
  case sub => omega
  all_goals exact hx

theorem transform_lt (op : Opcode) {x : Nat} (hx : x < 256) : op.transform x < 256 := by
  cases op <;> simp only [Opcode.transform] <;> omega

end Opcode

namespace Value

theorem add_int (x y : Int) : Value.add (.int x) (.int y) = .ok (.int (x + y)) := rfl

theorem lowByte_int (n : Int) : Value.lowByte (.int n) = .ok (.int (n % 256)) := rfl

theorem positive_int (n : Int) : Value.positive (.int n) = .ok (decide (0 < n)) := rfl

theorem byteOf_int {v : Nat} (byte : v < 256) : Value.byteOf (.int v) = .ok v := by
  simp [Value.byteOf, show (v : Int) < 256 by omega]

end Value

namespace Grid

/-- The grid with the pixels at the coordinate pairs of a list lit or darkened, a last odd
coordinate ignored. -/
def paintAll (g : Grid) (lit : Bool) : List Nat → Grid
  | x :: y :: rest => (g.paint x y lit).paintAll lit rest
  | _ => g

end Grid

namespace Machine

/-! ## The reference -/

/-- What an instruction does to a machine whose scratchpad holds `sp`, and whether it saves the
scratchpad, read off the instruction set's table; `none` where an address or a coordinate is out of
range, or the operands do not fit the opcode. -/
def effect (m : Machine) (sp : Memory) (i : Instr) : Option (Machine × Bool) :=
  let ram := m.ram.byteAt
  let pad := sp.byteAt
  let inRam (a : Nat) : Bool := decide ((a : Int) < m.size)
  let inPad (s : Nat) : Bool := decide (s < scratchSize)
  let next : Machine := { m with pc := m.pc + i.size }
  let write (a v : Nat) : Machine := { next with ram := m.ram.put a v }
  let keep (s v : Nat) : Machine := { next with scratch := .bytearray (sp.put s v) }
  let paint (lit : Bool) (coords : List Nat) : Option (Machine × Bool) :=
    if coords.all (· < gridSide) then some ({ next with grid := m.grid.paintAll lit coords }, false)
    else none
  let binary (f : Nat → Nat → Nat) (a b c : Nat) : Option (Machine × Bool) :=
    if inRam a && inRam b && inRam c then some (write c (f (ram a) (ram b)), false) else none
  let unary (f : Nat → Nat) (a c : Nat) : Option (Machine × Bool) :=
    if inRam a && inRam c then some (write c (f (ram a)), false) else none
  match i.op, i.args with
  | .set, _ :: coords => paint true coords
  | .clear, _ :: coords => paint false coords
  | .wait, [n] => some ({ next with delay := n, activeDelay := n }, false)
  | .loop, [] => some ({ m with pc := m.entry }, false)
  | .setAll, [] => some ({ next with grid := Grid.fill true }, false)
  | .setNone, [] => some ({ next with grid := Grid.fill false }, false)
  | .store, [a, v] => if inRam a then some (write a v, false) else none
  | .load, [a] =>
    if inRam a then some ({ next with grid := m.grid.paint 0 0 (0 < ram a) }, false) else none
  | .jump, [a] => if inRam a then some ({ m with pc := a }, false) else none
  | .jumpIf, [a, r] =>
    if inRam a && inRam r then some (if 0 < ram r then { m with pc := a } else next, false)
    else none
  | .add, [a, b, c] => binary (fun x y => (x + y) % 256) a b c
  | .sub, [a, b, c] => binary (fun x y => (((x : Int) - y) % 256).toNat) a b c
  | .bitAnd, [a, b, c] => binary (· &&& ·) a b c
  | .bitOr, [a, b, c] => binary (· ||| ·) a b c
  | .bitXor, [a, b, c] => binary (· ^^^ ·) a b c
  | .bitNot, [a, c] => unary (fun x => 255 - x) a c
  | .shiftLeft, [a, c] => unary (fun x => 2 * x % 256) a c
  | .shiftRight, [a, c] => unary (fun x => x / 2) a c
  | .scratchStore, [s, v] => if inPad s then some (keep s v, true) else none
  | .scratchLoad, [s, a] => if inPad s && inRam a then some (write a (pad s), false) else none
  | .scratchAdd, [s, t, d] =>
    if inPad s && inPad t && inPad d then some (keep d ((pad s + pad t) % 256), true) else none
  | .scratchCopy, [a, s] => if inRam a && inPad s then some (keep s (ram a), true) else none
  | .scratchJumpIf, [a, s] =>
    if inRam a && inPad s then some (if 0 < pad s then { m with pc := a } else next, false)
    else none
  | _, _ => none

/-- The reference reading of the instruction that the counter points at. -/
def reference (m : Machine) (sp : Memory) : Option (Machine × Bool) :=
  (m.ram.decode m.pc).bind fun d => m.effect sp d.1

/-- A machine the reference reading applies to: the declared size is the memory's, small enough to
index, and the scratchpad is a byte array of eight bytes. -/
structure Regular (m : Machine) (sp : Memory) : Prop where
  sized : m.size = m.ram.size
  small : m.size ≤ Memory.wordHalf
  pad : m.scratch = .bytearray sp
  eight : sp.size = scratchSize

namespace Regular

variable {m : Machine} {sp : Memory} (reg : m.Regular sp)
include reg

theorem small_ram : (m.ram.size : Int) ≤ Memory.wordHalf := reg.sized ▸ reg.small

theorem get_cell {a : Nat} (inside : (a : Int) < m.size) : m.ram.get a = .ok (m.ram.byteAt a) :=
  Memory.get_natCast reg.small_ram (by have := reg.sized; omega)

theorem set_cell {a v : Nat} (inside : (a : Int) < m.size) (byte : v < 256) :
    m.ram.set a v = .ok (m.ram.put a v) :=
  Memory.set_natCast reg.small_ram (by have := reg.sized; omega) byte

theorem getItem_scratch {s : Nat} (inside : s < scratchSize) :
    m.scratch.getItem s = .ok (.int (sp.byteAt s)) := by
  have small : (sp.size : Int) ≤ Memory.wordHalf := by rw [reg.eight]; decide
  rw [reg.pad, Value.getItem, Memory.get_natCast small (show s < sp.size by rw [reg.eight]; exact inside)]
  rfl

theorem setItem_scratch {s v : Nat} (inside : s < scratchSize) (byte : v < 256) :
    m.scratch.setItem s (.int v) = .ok (.bytearray (sp.put s v)) := by
  have small : (sp.size : Int) ≤ Memory.wordHalf := by rw [reg.eight]; decide
  have within : s < sp.size := by rw [reg.eight]; exact inside
  have word : Memory.fitsWord s = true := Memory.fitsWord_of_within small (by omega) (by omega)
  have stored := Memory.set_natCast small within byte
  have isByte : Value.byteOf (.int v) = .ok v := by
    simp [Value.byteOf, show (v : Int) < 256 by omega]
  rw [reg.pad]
  unfold Value.setItem
  dsimp only
  have okBind : ∀ {α : Type} (f : Nat → Except Fault α), (Except.ok v >>= f) = f v :=
    fun _ => rfl
  rw [if_neg (by simp [word]), isByte, okBind, stored]
  rfl

end Regular

/-- The machine `t` is `m` stopped with the alarm `a` and nothing else changed, or, with an
instruction setting or clearing pixels at the counter, with the pixels of a run of coordinate
pairs held right after its count painted, all of them on the grid. -/
def Raised (m : Machine) (a : Alarm) (t : Machine) : Prop :=
  t = { m with running := false, alarm := some a } ∨
    ∃ (op : Opcode) (coords : List Nat), op.takesPairs = true ∧ m.ram.get m.pc = .ok op.code ∧
      m.ram.Holds (m.pc + 2) coords ∧ coords.all (· < gridSide) = true ∧
      t = { m with grid := m.grid.paintAll (op == .set) coords, running := false,
                   alarm := some a }

/-- A halt before any write is a raised alarm. -/
theorem raised_halt (m : Machine) (a : Alarm) :
    Raised m a { m with running := false, alarm := some a } :=
  Or.inl rfl

theorem Raised.alarm {m t : Machine} {a : Alarm} (raised : Raised m a t) : t.alarm = some a := by
  rcases raised with rfl | ⟨op, coords, -, -, -, -, rfl⟩ <;> rfl

theorem Raised.running {m t : Machine} {a : Alarm} (raised : Raised m a t) : t.running = false := by
  rcases raised with rfl | ⟨op, coords, -, -, -, -, rfl⟩ <;> rfl

/-- The outcome of an instruction is its reference reading; where that has none, the machine
stops with an alarm and nothing else changes. -/
def Effected (m : Machine) (sp : Memory) (i : Instr) (saved : Bool) (t : Machine) : Prop :=
  match m.effect sp i with
  | some r => r = (t, saved)
  | none => saved = false ∧ ∃ a, t = { m with running := false, alarm := some a }

theorem effected_of_eq {m t : Machine} {sp : Memory} {i : Instr} {saved : Bool}
    (h : m.effect sp i = some (t, saved)) : Effected m sp i saved t := by
  simp [Effected, h]

theorem effected_of_none {m : Machine} {sp : Memory} {i : Instr} {a : Alarm}
    (h : m.effect sp i = none) : Effected m sp i false { m with running := false, alarm := some a } := by
  simp [Effected, h]

theorem holds_eq (m : Machine) (a : Nat) : m.holds a = decide ((a : Int) < m.size) := rfl

/-- A halt is an outcome the reference reading allows where it has no result. -/
theorem yields_halting_effected {m : Machine} {sp : Memory} {i : Instr} {a : Alarm}
    {err : Fault → Machine → Prop} (none : m.effect sp i = none) :
    Yields (halt a >>= fun _ => pure false) m (Effected m sp i) err := by
  rw [yields_halt_bind, yields_pure]
  exact effected_of_none none

/-- A step's outcome as the reference reading has it: its result where it has one, and otherwise
the machine stopped at a blank cell, or an alarm raised by the step. -/
def Obeys (m : Machine) (sp : Memory) (saved : Bool) (t : Machine) : Prop :=
  match m.reference sp with
  | some r => r = (t, saved)
  | none => saved = false ∧
      (m.ram.get m.pc = .ok 0 ∧ t = { m with running := false } ∨ ∃ a, Raised m a t)

theorem obeys_of_effected {m t : Machine} {sp : Memory} {i : Instr} {saved : Bool}
    (ref : m.reference sp = m.effect sp i) (h : Effected m sp i saved t) : Obeys m sp saved t := by
  unfold Effected at h
  unfold Obeys
  rw [ref]
  split at h
  · exact h
  · obtain ⟨unsaved, a, rfl⟩ := h
    exact ⟨unsaved, .inr ⟨a, raised_halt m a⟩⟩

/-- A step whose instruction has no reference reading raises the alarm where an instruction does,
after its reads and painted pairs. -/
theorem obeys_of_raised {m t : Machine} {sp : Memory} {a : Alarm} (none : m.reference sp = none)
    (raised : Raised m a t) : Obeys m sp false t := by
  unfold Obeys
  rw [none]
  exact ⟨rfl, .inr ⟨a, raised⟩⟩

theorem yields_halting_raised {m t : Machine} {sp : Memory} {a : Alarm}
    {err : Fault → Machine → Prop} (none : m.reference sp = none)
    (raised : Raised m a { t with running := false, alarm := some a }) :
    Yields (halt a >>= fun _ => pure false) t (Obeys m sp) err := by
  rw [yields_halt_bind, yields_pure]
  exact obeys_of_raised none raised

theorem yields_halting_obeys {m : Machine} {sp : Memory} {a : Alarm}
    {err : Fault → Machine → Prop} (none : m.reference sp = none) :
    Yields (halt a >>= fun _ => pure false) m (Obeys m sp) err :=
  yields_halting_raised none (raised_halt m a)

/-! ## Operations with known outcomes -/

theorem yields_storeScratch_bind_of {m : Machine} {i : Int} {v : Value} {scratch : Value}
    {α : Type} {ok : α → Machine → Prop} {err : Fault → Machine → Prop}
    (h : m.scratch.setItem i v = .ok scratch) (f : Unit → MachineM α) :
    Yields (storeScratch i v >>= f) m ok err ↔ Yields (f ()) { m with scratch } ok err := by
  rw [yields_storeScratch_bind]
  simp [h]

theorem yields_scratchCell_bind_of {m : Machine} {i : Int} {v : Value}
    {α : Type} {ok : α → Machine → Prop} {err : Fault → Machine → Prop}
    (h : m.scratch.getItem i = .ok v) (f : Value → MachineM α) :
    Yields (scratchCell i >>= f) m ok err ↔ Yields (f v) m ok err := by
  rw [yields_scratchCell_bind]
  simp [h]

theorem yields_liftFault_bind_of {m : Machine} {β : Type} {r : Except Fault β} {b : β}
    {α : Type} {ok : α → Machine → Prop} {err : Fault → Machine → Prop}
    (h : r = .ok b) (f : β → MachineM α) :
    Yields (liftFault r >>= f) m ok err ↔ Yields (f b) m ok err := by
  subst h
  rfl

theorem yields_storeValue_bind_of {m : Machine} {i : Int} {v : Value} {b : Nat}
    {α : Type} {ok : α → Machine → Prop} {err : Fault → Machine → Prop}
    (h : v.byteOf = .ok b) (f : Unit → MachineM α) :
    Yields (storeValue i v >>= f) m ok err ↔ Yields (store i b >>= f) m ok err := by
  rw [yields_storeValue_bind]
  simp [h]

theorem yields_store_bind_of {m : Machine} {i v : Int} {ram : Memory} {α : Type}
    {ok : α → Machine → Prop} {err : Fault → Machine → Prop}
    (h : m.ram.set i v = .ok ram) (f : Unit → MachineM α) :
    Yields (store i v >>= f) m ok err ↔ Yields (f ()) { m with ram } ok err := by
  rw [yields_store_bind]
  simp [h]

/-! ## Setting and clearing pixels -/

/-- What painting `count` coordinate pairs from `addr` on does in the reference reading: with
every coordinate read and on the grid, all pairs are painted and the pointer ends past them;
otherwise an alarm, whatever was painted before it. -/
def PaintsPairs (m : Machine) (lit : Bool) (count : Nat) (addr : Int) (r : Except Alarm Int)
    (t : Machine) : Prop :=
  match m.ram.readBytes addr (2 * count) with
  | some coords =>
    if coords.all (· < gridSide) then
      r = .ok (addr + 2 * count) ∧ t = { m with grid := m.grid.paintAll lit coords }
    else ∃ a, r = .error a
  | none => ∃ a, r = .error a

theorem paintsPairs_of_none {m : Machine} {lit : Bool} {count : Nat} {addr : Int} {a : Alarm}
    {t : Machine} (none : m.ram.readBytes addr (2 * count) = none) :
    PaintsPairs m lit count addr (.error a) t := by
  simp [PaintsPairs, none]

/-- Painting pairs paints a run of pairs held from the first address on, all on the grid, and
changes nothing else, whether it ends past the last pair or with an alarm; a fault keeps the alarm
and the running flag. By recursion on the count, each round reading one pair. -/
theorem yields_paintPairs_painted (op : Opcode) (lit : Bool) :
    ∀ (count : Nat) (addr : Int) (m : Machine),
      Yields (paintPairs op lit count addr) m
        (fun _ t => ∃ coords, m.ram.Holds addr coords ∧ coords.all (· < gridSide) = true ∧
          t = { m with grid := m.grid.paintAll lit coords })
        (fun _ t => Quiet m t)
  | 0, addr, m => by
    rw [paintPairs, yields_pure]
    exact ⟨[], Memory.Holds.nil _, rfl, rfl⟩
  | count + 1, addr, m => by
    unfold paintPairs
    rw [yields_get_bind]
    by_cases beyond : m.size ≤ addr + 1
    · rw [if_pos beyond, yields_pure]
      exact ⟨[], Memory.Holds.nil _, rfl, rfl⟩
    rw [if_neg beyond, yields_cell_bind]
    refine ⟨fun _ _ => quiet.refl m, fun x readX => ?_⟩
    rw [yields_cell_bind]
    refine ⟨fun _ _ => quiet.refl m, fun y readY => ?_⟩
    by_cases onGrid : x < gridSide ∧ y < gridSide
    · -- the pair is painted, and the rest of the run is painted from the painted machine
      rw [if_pos onGrid, yields_paint_bind]
      refine (yields_paintPairs_painted op lit count (addr + 2) _).mono
        (fun _ t painted => ?_) (fun _ _ kept => quiet.trans (quiet.grid m _) kept)
      obtain ⟨coords, held, allOn, rfl⟩ := painted
      have rest : m.ram.Holds (addr + 1 + 1) coords := by
        rwa [show addr + 1 + 1 = addr + 2 by omega]
      exact ⟨x :: y :: coords, Memory.Holds.cons readX (Memory.Holds.cons readY rest),
        by simp [allOn, onGrid.1, onGrid.2], rfl⟩
    · rw [if_neg onGrid, yields_pure]
      exact ⟨[], Memory.Holds.nil _, rfl, rfl⟩

section Operands

attribute [local irreducible] Yields

variable {m : Machine} {sp : Memory}

/-- Painting pairs from an address no lower than minus the size never faults: a pair past the
declared memory stops the loop before its cells are read. By recursion on the count, each round
reading one pair. -/
theorem yields_paintPairs_within (op : Opcode) (lit : Bool) :
    ∀ (count : Nat) (addr : Int) (m : Machine), m.size = m.ram.size → m.size ≤ Memory.wordHalf →
      -m.size ≤ addr →
      Yields (paintPairs op lit count addr) m (PaintsPairs m lit count addr) (fun _ _ => False)
  | 0, addr, m, _, _, _ => by
    rw [paintPairs, yields_pure]
    simp [PaintsPairs, Memory.readBytes, Grid.paintAll]
  | count + 1, addr, m, sized, small, low => by
    unfold paintPairs
    rw [yields_get_bind]
    by_cases beyond : m.size ≤ addr + 1
    · rw [if_pos beyond, yields_pure]
      exact paintsPairs_of_none (Memory.readBytes_beyond (by omega) (by omega))
    -- both coordinates lie within memory
    rw [if_neg beyond]
    obtain ⟨x, readX⟩ := Memory.get_within (sized ▸ small) (by omega) (show addr < _ by omega)
    obtain ⟨y, readY⟩ := Memory.get_within (sized ▸ small) (by omega)
      (show addr + 1 < _ by omega)
    have pairs : m.ram.readBytes addr (2 * (count + 1)) =
        (m.ram.readBytes (addr + 2) (2 * count)).map (x :: y :: ·) := by
      rw [show 2 * (count + 1) = 2 * count + 1 + 1 by omega, Memory.readBytes_succ_of_get readX,
        Memory.readBytes_succ_of_get readY, show addr + 1 + 1 = addr + 2 by omega]
      cases m.ram.readBytes (addr + 2) (2 * count) <;> rfl
    rw [yields_cell_bind_of readX, yields_cell_bind_of readY]
    by_cases onGrid : x < gridSide ∧ y < gridSide
    · rw [if_pos onGrid, yields_paint_bind]
      refine (yields_paintPairs_within op lit count (addr + 2)
        { m with grid := m.grid.paint x y lit } sized small (by dsimp only; omega)).mono
        (fun r t rest => ?_) (fun _ _ => id)
      simp only [PaintsPairs, pairs] at rest ⊢
      cases after : m.ram.readBytes (addr + 2) (2 * count) with
      | none => simp only [after] at rest; simpa using rest
      | some coords =>
        simp only [after, Option.map_some, List.all_cons, onGrid.1, onGrid.2, decide_true,
          Bool.true_and] at rest ⊢
        split at rest
        · rename_i allOn
          rw [if_pos allOn]
          obtain ⟨ended, rfl⟩ := rest
          refine ⟨by rw [ended]; congr 1; omega, rfl⟩
        · rename_i notAll
          rw [if_neg notAll]
          exact rest
    · rw [if_neg onGrid, yields_pure]
      simp only [PaintsPairs, pairs]
      cases m.ram.readBytes (addr + 2) (2 * count) with
      | none => exact ⟨_, rfl⟩
      | some coords =>
        have off : (x :: y :: coords).all (· < gridSide) = false := by
          simp only [List.all_cons, Bool.and_eq_false_iff, decide_eq_false_iff_not]
          omega
        simp only [Option.map_some]
        rw [if_neg (by simp only [off]; decide)]
        exact ⟨_, rfl⟩

/-! ## Instructions and steps -/

/-- Carrying out an instruction with fixed operands, held at the counter of a regular machine,
never faults and does what its reference reading says. One case per opcode, each reading its
operands, then splitting on the guard. -/
theorem execute_fixed_effected (reg : m.Regular sp) {op : Opcode} {args : List Nat}
    (fixed : op.takesPairs = false) (held : m.ram.Holds m.pc (op.code :: args))
    (length : args.length = op.arity) :
    Yields (execute op m.pc) m (Effected m sp ⟨op, args⟩) (fun _ _ => False) := by
  have byte : ∀ k b, (op.code :: args)[k]? = some b → b < 256 := fun k b found =>
    Memory.get_lt (held.at k found)
  unfold execute
  rw [yields_get_bind]
  cases op <;> dsimp only
  case set | clear => cases fixed
  case store =>
    obtain ⟨a, v, rfl⟩ := pair_of_length length
    rw [yields_cell_bind_of (held.at 1 rfl), yields_cell_bind_of (held.at 2 rfl), holds_eq]
    by_cases inside : (a : Int) < m.size
    · rw [if_pos (decide_eq_true inside), yields_store_bind_of (reg.set_cell inside (byte 2 v rfl)),
        yields_advance_bind, yields_pure]
      apply effected_of_eq
      simp only [effect, inside, decide_true, if_true]
      rfl
    · rw [if_neg (by simpa using inside)]
      exact yields_halting_effected (by simp [effect, inside])
  case wait =>
    obtain ⟨n, rfl⟩ := List.length_eq_one_iff.mp length
    rw [yields_cell_bind_of (held.at 1 rfl), yields_modify_bind, yields_advance_bind, yields_pure]
    exact effected_of_eq (by simp only [effect]; rfl)
  case loop =>
    obtain rfl := List.length_eq_zero_iff.mp length
    rw [yields_jumpTo_bind, yields_pure]
    exact effected_of_eq (by simp only [effect])
  case setAll | setNone =>
    obtain rfl := List.length_eq_zero_iff.mp length
    rw [yields_modify_bind, yields_advance_bind, yields_pure]
    exact effected_of_eq (by simp only [effect]; rfl)
  case load =>
    obtain ⟨a, rfl⟩ := List.length_eq_one_iff.mp length
    rw [yields_cell_bind_of (held.at 1 rfl), holds_eq]
    by_cases inside : (a : Int) < m.size
    · rw [if_pos (decide_eq_true inside), yields_cell_bind_of (reg.get_cell inside),
        yields_paint_bind, yields_advance_bind, yields_pure]
      exact effected_of_eq (by simp only [effect, inside, decide_true, if_true]; rfl)
    · rw [if_neg (by simpa using inside)]
      exact yields_halting_effected (by simp [effect, inside])
  case jump =>
    obtain ⟨a, rfl⟩ := List.length_eq_one_iff.mp length
    rw [yields_cell_bind_of (held.at 1 rfl), holds_eq]
    by_cases inside : (a : Int) < m.size
    · rw [if_pos (decide_eq_true inside), yields_jumpTo_bind, yields_pure]
      exact effected_of_eq (by simp only [effect, inside, decide_true, if_true])
    · rw [if_neg (by simpa using inside)]
      exact yields_halting_effected (by simp [effect, inside])
  case jumpIf =>
    obtain ⟨a, r, rfl⟩ := pair_of_length length
    rw [yields_cell_bind_of (held.at 1 rfl), yields_cell_bind_of (held.at 2 rfl), holds_eq,
      holds_eq]
    by_cases inside : (a : Int) < m.size ∧ (r : Int) < m.size
    · obtain ⟨ha, hr⟩ := inside
      rw [if_pos (by simp [ha, hr]), yields_cell_bind_of (reg.get_cell hr)]
      by_cases tested : 0 < m.ram.byteAt r
      · rw [if_pos tested, yields_jumpTo_bind, yields_pure]
        exact effected_of_eq (by simp only [effect, ha, hr, tested, decide_true, Bool.and_self, if_true])
      · rw [if_neg tested, yields_advance_bind, yields_pure]
        exact effected_of_eq (by
          simp only [effect, ha, hr, tested, decide_true, Bool.and_self, if_true, if_false]
          rfl)
    · rw [if_neg (by simpa using inside)]
      refine yields_halting_effected ?_
      simp only [effect]
      rw [if_neg (by simpa using inside)]
  case add | bitAnd | bitOr | bitXor | sub =>
    obtain ⟨a, b, d, rfl⟩ := triple_of_length length
    rw [yields_cell_bind_of (held.at 1 rfl), yields_cell_bind_of (held.at 2 rfl),
      yields_cell_bind_of (held.at 3 rfl), holds_eq, holds_eq, holds_eq]
    by_cases inside : (a : Int) < m.size ∧ (b : Int) < m.size ∧ (d : Int) < m.size
    · obtain ⟨ha, hb, hd⟩ := inside
      rw [if_pos (by simp [ha, hb, hd]), yields_cell_bind_of (reg.get_cell ha),
        yields_cell_bind_of (reg.get_cell hb), yields_store_bind_of (reg.set_cell hd
          (Opcode.combine_lt _ (Memory.byteAt_lt _ _) (Memory.byteAt_lt _ _))),
        yields_advance_bind, yields_pure]
      exact effected_of_eq (by
        simp only [effect, ha, hb, hd, decide_true, Bool.and_self, if_true]
        rfl)
    · rw [if_neg (by simpa [and_assoc] using inside)]
      refine yields_halting_effected ?_
      simp only [effect]
      rw [if_neg (by simpa [and_assoc] using inside)]
  case bitNot | shiftLeft | shiftRight =>
    obtain ⟨a, d, rfl⟩ := pair_of_length length
    rw [yields_cell_bind_of (held.at 1 rfl), yields_cell_bind_of (held.at 2 rfl), holds_eq,
      holds_eq]
    by_cases inside : (a : Int) < m.size ∧ (d : Int) < m.size
    · obtain ⟨ha, hd⟩ := inside
      rw [if_pos (by simp [ha, hd]), yields_cell_bind_of (reg.get_cell ha),
        yields_store_bind_of (reg.set_cell hd (Opcode.transform_lt _ (Memory.byteAt_lt _ _))),
        yields_advance_bind, yields_pure]
      exact effected_of_eq (by
        simp only [effect, ha, hd, decide_true, Bool.and_self, if_true, Opcode.transform,
          Nat.mod_eq_of_lt (Memory.byteAt_lt _ _)]
        rfl)
    · rw [if_neg (by simpa using inside)]
      refine yields_halting_effected ?_
      simp only [effect]
      rw [if_neg (by simpa using inside)]
  case scratchStore =>
    obtain ⟨s, v, rfl⟩ := pair_of_length length
    rw [yields_cell_bind_of (held.at 1 rfl), yields_cell_bind_of (held.at 2 rfl)]
    by_cases inside : s < scratchSize
    · rw [if_pos inside, yields_storeScratch_bind_of (reg.setItem_scratch inside (byte 2 v rfl)),
        yields_advance_bind, yields_pure]
      exact effected_of_eq (by simp only [effect, inside, decide_true, if_true]; rfl)
    · rw [if_neg inside]
      exact yields_halting_effected (by simp [effect, inside])
  case scratchLoad =>
    obtain ⟨s, r, rfl⟩ := pair_of_length length
    rw [yields_cell_bind_of (held.at 1 rfl), yields_cell_bind_of (held.at 2 rfl), holds_eq]
    by_cases inside : s < scratchSize ∧ (r : Int) < m.size
    · obtain ⟨hs, hr⟩ := inside
      rw [if_pos (by simp [hs, hr]), yields_scratchCell_bind_of (reg.getItem_scratch hs),
        yields_storeValue_bind_of (Value.byteOf_int (Memory.byteAt_lt _ _)),
        yields_store_bind_of (reg.set_cell hr (Memory.byteAt_lt _ _)), yields_advance_bind,
        yields_pure]
      exact effected_of_eq (by simp only [effect, hs, hr, decide_true, Bool.and_self, if_true]; rfl)
    · rw [if_neg (by simpa using inside)]
      refine yields_halting_effected ?_
      simp only [effect]
      rw [if_neg (by simpa using inside)]
  case scratchAdd =>
    obtain ⟨s, t, d, rfl⟩ := triple_of_length length
    rw [yields_cell_bind_of (held.at 1 rfl), yields_cell_bind_of (held.at 2 rfl),
      yields_cell_bind_of (held.at 3 rfl)]
    by_cases inside : s < scratchSize ∧ t < scratchSize ∧ d < scratchSize
    · obtain ⟨hs, ht, hd⟩ := inside
      -- the sum of two scratch bytes, kept to its low byte, is the byte the reference writes
      have low : ((sp.byteAt s : Int) + sp.byteAt t) % 256 =
          (((sp.byteAt s + sp.byteAt t) % 256 : Nat) : Int) := by
        omega
      rw [if_pos (by simp [hs, ht, hd]), yields_scratchCell_bind_of (reg.getItem_scratch hs),
        yields_scratchCell_bind_of (reg.getItem_scratch ht),
        yields_liftFault_bind_of (Value.add_int _ _), yields_liftFault_bind_of (Value.lowByte_int _),
        low,
        yields_storeScratch_bind_of (reg.setItem_scratch hd (Nat.mod_lt _ (by decide))),
        yields_advance_bind, yields_pure]
      exact effected_of_eq (by simp only [effect, hs, ht, hd, decide_true, Bool.and_self, if_true]; rfl)
    · rw [if_neg (by simpa [and_assoc] using inside)]
      refine yields_halting_effected ?_
      simp only [effect]
      rw [if_neg (by simpa [and_assoc] using inside)]
  case scratchCopy =>
    obtain ⟨r, s, rfl⟩ := pair_of_length length
    rw [yields_cell_bind_of (held.at 1 rfl), yields_cell_bind_of (held.at 2 rfl), holds_eq]
    by_cases inside : (r : Int) < m.size ∧ s < scratchSize
    · obtain ⟨hr, hs⟩ := inside
      rw [if_pos (by simp [hs, hr]), yields_cell_bind_of (reg.get_cell hr),
        yields_storeScratch_bind_of (reg.setItem_scratch hs (Memory.byteAt_lt _ _)),
        yields_advance_bind, yields_pure]
      exact effected_of_eq (by simp only [effect, hs, hr, decide_true, Bool.and_self, if_true]; rfl)
    · rw [if_neg (by simpa using inside)]
      refine yields_halting_effected ?_
      simp only [effect]
      rw [if_neg (by simpa using inside)]
  case scratchJumpIf =>
    obtain ⟨a, s, rfl⟩ := pair_of_length length
    rw [yields_cell_bind_of (held.at 1 rfl), yields_cell_bind_of (held.at 2 rfl), holds_eq]
    by_cases inside : (a : Int) < m.size ∧ s < scratchSize
    · obtain ⟨ha, hs⟩ := inside
      rw [if_pos (by simp [hs, ha]), yields_scratchCell_bind_of (reg.getItem_scratch hs),
        yields_liftFault_bind_of (Value.positive_int _)]
      by_cases tested : 0 < sp.byteAt s
      · rw [if_pos (by simpa using tested), yields_jumpTo_bind, yields_pure]
        exact effected_of_eq (by
          simp only [effect, ha, hs, tested, decide_true, Bool.and_self, if_true])
      · rw [if_neg (by simpa using tested), yields_advance_bind, yields_pure]
        exact effected_of_eq (by
          simp only [effect, ha, hs, tested, decide_true, Bool.and_self, if_true, if_false]
          rfl)
    · rw [if_neg (by simpa using inside)]
      refine yields_halting_effected ?_
      simp only [effect]
      rw [if_neg (by simpa using inside)]

/-- Setting or clearing pixels at the counter of a regular machine does what the reference reading
of the instruction there says. -/
theorem execute_pairs_obeys (reg : m.Regular sp) {op : Opcode} (pairs : op.takesPairs = true)
    (read : m.ram.get m.pc = .ok op.code) (low : -m.size ≤ m.pc) (fits : m.pc + 1 < m.size) :
    Yields (execute op m.pc) m (Obeys m sp) (fun _ _ => False) := by
  have sized := reg.sized
  obtain ⟨count, counted⟩ :=
    Memory.get_within reg.small_ram (i := m.pc + ((1 : Nat) : Int)) (by omega) (by omega)
  have ref : m.reference sp = (m.ram.readBytes (m.pc + 2) (2 * count)).bind
      fun coords => m.effect sp ⟨op, count :: coords⟩ := by
    rw [reference, Memory.decode_pairs read pairs counted]
    cases m.ram.readBytes (m.pc + 2) (2 * count) <;> rfl
  unfold execute
  rw [yields_get_bind]
  cases op <;> simp only [Opcode.takesPairs, Bool.false_eq_true] at pairs <;> dsimp only
  all_goals
    rw [yields_cell_bind_of counted, yields_bind]
    refine ((yields_paintPairs_within _ _ count (m.pc + 2) m reg.sized reg.small (by omega)).and
      (yields_paintPairs_painted _ _ count (m.pc + 2) m)).mono (fun r t both => ?_)
      (fun _ _ both => both.1)
    obtain ⟨painted, run⟩ := both
    unfold PaintsPairs at painted
    cases found : m.ram.readBytes (m.pc + 2) (2 * count) with
    | none =>
      rw [found] at painted
      obtain ⟨a, rfl⟩ := painted
      -- a pair past the memory raises the alarm over the pairs painted before it
      obtain ⟨painted, held, allOn, rfl⟩ := run
      exact yields_halting_raised (by rw [ref, found]; rfl)
        (.inr ⟨_, painted, rfl, read, held, allOn, rfl⟩)
    | some coords =>
      rw [found] at painted
      have length := (Memory.holds_of_readBytes found).2
      dsimp only at painted
      split at painted
      · rename_i onGrid
        obtain ⟨rfl, rfl⟩ := painted
        rw [yields_jumpTo_bind, yields_pure]
        simp only [Obeys, ref, found, Option.bind_some, effect, onGrid, ↓reduceIte, Instr.size,
          List.length_cons, length, show (Opcode.set == Opcode.set) = true from rfl,
          show (Opcode.clear == Opcode.set) = false from rfl]
        congr 2
        omega
      · rename_i offGrid
        obtain ⟨a, rfl⟩ := painted
        obtain ⟨painted, held, allOn, rfl⟩ := run
        exact yields_halting_raised (by simp only [ref, found, Option.bind_some, effect, offGrid,
          Bool.false_eq_true, ↓reduceIte]) (.inr ⟨_, painted, rfl, read, held, allOn, rfl⟩)

/-- A step from a regular machine that waits no longer and whose counter names a cell does what
the reference reading of the instruction there says; where that reading has nothing to say the
machine stops, at a blank cell with nothing else changed, or raising an alarm. -/
theorem step_obeys (reg : m.Regular sp) (idle : m.delay ≤ 0) (low : -m.size ≤ m.pc)
    (high : m.pc < m.size) : Yields step m (Obeys m sp) (fun _ _ => False) := by
  have sized := reg.sized
  obtain ⟨code, read⟩ := Memory.get_within reg.small_ram (i := m.pc) (by omega) (by omega)
  unfold step
  rw [yields_get_bind, if_neg (by omega), if_neg (by omega), yields_cell_bind_of read]
  by_cases blank : code = 0
  · -- a blank cell stops the machine and is no instruction
    subst blank
    have none : m.reference sp = none := by
      rw [reference, Memory.decode_unknown read rfl]
      rfl
    rw [if_pos rfl, yields_set_bind, yields_pure]
    unfold Obeys
    rw [none]
    exact ⟨rfl, .inl ⟨read, rfl⟩⟩
  rw [if_neg blank]
  cases known : Opcode.ofCode? code with
  | none =>
    dsimp only
    exact yields_halting_obeys (by rw [reference, Memory.decode_unknown read known]; rfl)
  | some op =>
    dsimp only
    obtain rfl := Opcode.code_of_ofCode? known
    by_cases short : m.size ≤ m.pc + op.arity
    · -- the operands run past the declared memory, and so past the cells
      rw [if_pos short]
      refine yields_halting_obeys ?_
      cases pairs : op.takesPairs
      · have none := Memory.readBytes_beyond (m := m.ram) (a := m.pc + 1) (n := op.arity)
          (Nat.pos_of_ne_zero fun zero => by rw [zero] at short; omega) (by omega)
        rw [reference, Memory.decode_fixed read pairs, none]
        rfl
      · have arity : op.arity = 1 := by cases op <;> simp_all [Opcode.takesPairs, Opcode.arity]
        obtain ⟨e, beyond⟩ := Memory.get_outside (m := m.ram) (i := m.pc + 1) (.inr (by omega))
        rw [reference, Memory.decode_uncounted read pairs beyond]
        rfl
    rw [if_neg short]
    cases pairs : op.takesPairs
    · obtain ⟨args, found⟩ := Memory.readBytes_within reg.small_ram (a := m.pc + 1) (n := op.arity)
        (by omega) (by omega)
      obtain ⟨held, length⟩ := Memory.holds_of_readBytes found
      refine (execute_fixed_effected reg pairs (held.cons read) length).mono
        (fun saved t effected => obeys_of_effected ?_ effected) (fun _ _ => id)
      rw [reference, Memory.decode_fixed read pairs, found]
      rfl
    · have arity : op.arity = 1 := by cases op <;> simp_all [Opcode.takesPairs, Opcode.arity]
      exact execute_pairs_obeys reg pairs read low (by omega)

end Operands

/-- A step from a regular machine that waits no longer, with its counter naming a cell, returns
what the reference reading of the instruction there gives: every operand read before any write,
then the one write, the pixels and the counter as the opcode says, and nothing else changed.
Where the reference reading has no result, the step asks for no save and stops the machine: at a
blank cell with nothing else changed, or raising an alarm that changes nothing but the running flag
and the pixels of the coordinate pairs before a bad one. -/
theorem step_follows_reference {m : Machine} {sp : Memory} (reg : m.Regular sp)
    (idle : m.delay ≤ 0) (low : -m.size ≤ m.pc) (high : m.pc < m.size) :
    match m.reference sp with
    | some (t, saved) => step.run m = .ok saved t
    | none => ∃ t, step.run m = .ok false t ∧
        (m.ram.get m.pc = .ok 0 ∧ t = { m with running := false } ∨ ∃ a, Raised m a t) := by
  have obeys := step_obeys reg idle low high
  cases ref : m.reference sp with
  | some r =>
    obtain ⟨t, saved⟩ := r
    refine Yields.run_eq (obeys.mono (fun b u same => ?_) (fun _ _ => id))
    simp only [Obeys, ref, Prod.mk.injEq] at same
    exact ⟨same.2.symm, same.1.symm⟩
  | none =>
    unfold Yields at obeys
    split at obeys
    · rename_i saved t run
      simp only [Obeys, ref] at obeys
      obtain ⟨rfl, stopped⟩ := obeys
      exact ⟨t, run, stopped⟩
    · exact obeys.elim

/-- A machine of eight cells with ADD 4 5 6 at its counter and the bytes 3 and 4 to add. -/
def addingMachine : Machine :=
  { size := 8, ram := (Memory.zeros 8).write 0 [Opcode.add.code, 4, 5, 6, 3, 4],
    scratch := freshScratch }

theorem step_follows_reference_sample :
    match addingMachine.reference (Memory.zeros 8) with
    | some (t, saved) => step.run addingMachine = .ok saved t
    | none => ∃ t, step.run addingMachine = .ok false t ∧
        (addingMachine.ram.get addingMachine.pc = .ok 0 ∧
            t = { addingMachine with running := false } ∨ ∃ a, Raised addingMachine a t) :=
  @step_follows_reference addingMachine (Memory.zeros 8) ⟨by decide, by decide, rfl, rfl⟩
    (by decide) (by decide) (by decide)

/-- The reference reading of ADD 4 5 6 writes 3 + 4 to cell 6 and moves past the instruction. -/
example : (addingMachine.reference (Memory.zeros 8)).map (fun r => ((r.1.ram.get 6).toOption, r.1.pc)) =
    some (some 7, 4) := by
  decide

/-- A step raises a fault exactly when it reads the cell under a counter below the start of
memory with no wait pending, and the fault is then an index error that changes nothing. In every
other case each index the step uses names a cell and each value it stores is a byte. -/
theorem step_raises_only_below_memory {m : Machine} {sp : Memory} (reg : m.Regular sp) :
    Yields step m (fun _ _ => ¬(m.delay ≤ 0 ∧ m.pc < -m.size))
      (fun e t => m.delay ≤ 0 ∧ m.pc < -m.size ∧ e.kind = "IndexError" ∧ t = m) := by
  by_cases waiting : 0 < m.delay
  · exact (yields_step_waiting waiting).mpr (by omega)
  by_cases below : m.pc < -m.size
  · -- the counter names no cell: reading the opcode raises before anything changes
    have sized := reg.sized
    obtain ⟨e, fails⟩ := Memory.get_outside (m := m.ram) (i := m.pc) (.inl (by omega))
    unfold step
    rw [yields_get_bind, if_neg waiting, if_neg (by omega), yields_cell_bind]
    refine ⟨fun e' fails' => ⟨by omega, below, Memory.kind_of_get_error fails', rfl⟩,
      fun b read => ?_⟩
    rw [fails] at read
    cases read
  by_cases beyond : m.size ≤ m.pc
  · unfold step
    rw [yields_get_bind, if_neg waiting, if_pos beyond, yields_halt_bind, yields_pure]
    omega
  exact (step_obeys reg (by omega) (by omega) (by omega)).mono (fun _ _ _ => by omega)
    (fun _ _ => False.elim)

theorem step_raises_only_below_memory_sample :
    Yields step { addingMachine with pc := -9 }
      (fun _ _ => ¬(({ addingMachine with pc := -9 } : Machine).delay ≤ 0 ∧
        ({ addingMachine with pc := -9 } : Machine).pc < -({ addingMachine with pc := -9 } : Machine).size))
      (fun e t => ({ addingMachine with pc := -9 } : Machine).delay ≤ 0 ∧
        ({ addingMachine with pc := -9 } : Machine).pc < -({ addingMachine with pc := -9 } : Machine).size ∧
        e.kind = "IndexError" ∧ t = { addingMachine with pc := -9 }) :=
  @step_raises_only_below_memory { addingMachine with pc := -9 } (Memory.zeros 8)
    ⟨by decide, by decide, rfl, rfl⟩

end Machine

end LedMachine
