import LedMachine.Fault
import LedMachine.Text.Hex

/-!
# Memory

A memory is a row of byte cells. A cell is named by a signed index: counting from the first cell
when the index is not negative, and from the end when it is, so that `-1` names the last cell.
An index must fit a signed 64-bit word to be an index at all. A store checks its index first,
then that the value is a byte, then that the index names a cell.
-/

namespace LedMachine

/-- A row of byte cells. -/
structure Memory where
  /-- The cells, first to last. -/
  cells : Array UInt8
  deriving DecidableEq, Repr

namespace Memory

/-- The number of cells. -/
def size (m : Memory) : Nat := m.cells.size

/-- The number of values of each sign that a signed 64-bit word holds. -/
def wordHalf : Int := Nat.pow 2 63

/-- Whether an integer fits a signed 64-bit word, as every index and size must. -/
def fitsWord (i : Int) : Bool := decide (-wordHalf ≤ i ∧ i < wordHalf)

/-- The position of the cell that a signed index names in a row of `size` cells, if any. -/
def position? (size : Nat) (i : Int) : Option Nat :=
  if 0 ≤ i then
    if i < size then some i.toNat else none
  else if -(size : Int) ≤ i then some (size - i.natAbs) else none

/-- The byte in the cell that a signed index names. -/
def get (m : Memory) (i : Int) : Except Fault Nat :=
  if !fitsWord i then .error .indexTooWide
  else
    match (position? m.size i).bind (fun p => m.cells[p]?) with
    | some b => .ok b.toNat
    | none => .error .noSuchCell

/-- Stores a value in the cell that a signed index names. -/
def set (m : Memory) (i v : Int) : Except Fault Memory :=
  if !fitsWord i then .error .indexTooWide
  else if !decide (0 ≤ v ∧ v < 256) then .error .notAByte
  else
    match position? m.size i with
    | some p => .ok ⟨m.cells.setIfInBounds p (UInt8.ofNat v.toNat)⟩
    | none => .error .noSuchCell

/-- A memory of `n` zero cells. -/
def zeros (n : Nat) : Memory := ⟨Array.replicate n 0⟩

/-- The size from which no memory can be allocated: 32 GiB. -/
def allocationLimit : Nat := Nat.pow 2 35

/-- A fresh memory of `n` zero cells. A size beyond a word, a negative size and a size beyond the
allocation limit are faults, found in that order. -/
def alloc (n : Int) : Except Fault Memory :=
  if !fitsWord n then .error .sizeTooWide
  else if n < 0 then .error .negativeSize
  else if (allocationLimit : Int) < n then .error .outOfMemory
  else .ok (zeros n.toNat)

/-- The cells as text, two lower-case hexadecimal digits each. -/
def hex (m : Memory) : String :=
  String.ofList (m.cells.toList.flatMap (fun b => Text.hexDigits 2 b.toNat))

/-- A memory holding the given bytes, each taken modulo 256. -/
def ofBytes (bytes : List Nat) : Memory := ⟨(bytes.map UInt8.ofNat).toArray⟩

/-- The bytes of the cells, first to last. -/
def bytes (m : Memory) : List Nat := m.cells.toList.map UInt8.toNat

@[simp]
theorem size_zeros (n : Nat) : (zeros n).size = n := by
  simp [zeros, size]

theorem position?_lt {size p : Nat} {i : Int} (found : position? size i = some p) : p < size := by
  unfold position? at found
  split at found
  · split at found
    · cases found; omega
    · cases found
  · split at found
    · cases found; omega
    · cases found

example : (zeros 3).set (-1) 7 = .ok ⟨#[0, 0, 7]⟩ := by rfl
example : (zeros 3).set 5 300 = .error .notAByte := by rfl
example : (zeros 3).get (-4) = .error .noSuchCell := by rfl
example : (zeros 2).hex = "0000" := by decide

end Memory

end LedMachine
