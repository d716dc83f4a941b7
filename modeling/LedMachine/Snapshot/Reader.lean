import LedMachine.Snapshot.Escapes
import LedMachine.Snapshot.Update

/-!
# The reader's state

A saved value is read by running the instructions of its file on a stack of values. The reader
keeps the bytes still to read and how many it has read, the stack (its top first), the open
marks (the stack's heights when each was set, the latest first), the values kept by number for
later reference, and the version the file declared.

The latest mark fences the stack: nothing at or below its height may be taken. Taking from a
fenced-off stack fails, saying whether a mark is open.

Reading past the end of the file fails as truncated data, unless the read is so long that it
could not be asked for at all: one that would run past the largest file offset, or one whose
buffer could not be allocated.
-/

namespace LedMachine

namespace Snapshot

/-- What reading a saved value keeps between instructions. -/
structure Reader where
  /-- The bytes not yet read. -/
  rest : List UInt8
  /-- How many bytes have been read. -/
  consumed : Nat
  /-- The values built so far, the latest first. -/
  stack : List Value
  /-- The heights of the stack at the open marks, the latest first. -/
  marks : List Nat
  /-- The values kept for later reference, by number. -/
  memo : List (Nat × Value)
  /-- The format version the file declared, 0 until it declares one. -/
  version : Nat

/-- A step of reading: it changes the reader and may fail. -/
abbrev ReadM := StateT Reader (Except Fault)

namespace Reader

/-- The reader at the start of a file. -/
def start (bs : List UInt8) : Reader := ⟨bs, 0, [], [], [], 0⟩

/-- The number of values on the stack. -/
def height (r : Reader) : Nat := r.stack.length

/-- The height nothing may be taken below: the latest mark's, or the bottom. -/
def fence (r : Reader) : Nat := r.marks.head?.getD 0

end Reader

/-- The largest size a signed machine word holds. -/
def sizeLimit : Nat := Nat.pow 2 63 - 1

/-- The failure of data that ends early. -/
def truncated : Fault := failure "pickle data was truncated"

/-- The failure of taking from a fenced-off stack. -/
def underflow : ReadM α := do
  let r ← get
  throw (failure (if r.marks.isEmpty then "unpickling stack underflow" else "unexpected MARK found"))

/-- Marks some bytes as read. -/
def advance (n : Nat) : ReadM Unit :=
  modify fun r => { r with rest := r.rest.drop n, consumed := r.consumed + n }

/-- Reads `n` bytes into a new buffer. -/
def take (n : Nat) : ReadM (List UInt8) := do
  let r ← get
  let got := r.rest.take n
  if got.length < n then
    if sizeLimit < r.consumed + n then throw (failure "read would overflow (invalid bytecode)")
    else if Memory.allocationLimit ≤ n then throw .outOfMemory
    else throw truncated
  advance n
  pure got

/-- Reads `n` bytes into a value allocated first: a byte string when `isBytes`, else a byte
array. -/
def takeInto (n : Nat) (isBytes : Bool) : ReadM (List UInt8) := do
  if isBytes && sizeLimit - 33 < n then throw (.raised .overflowError "byte string is too large")
  if Memory.allocationLimit ≤ n then throw .outOfMemory
  let r ← get
  let got := r.rest.take n
  if got.length < n then throw truncated
  advance n
  pure got

/-- Reads a line, its line end included. -/
def line : ReadM (List UInt8) := do
  let r ← get
  match r.rest.findIdx? (· == 0x0A) with
  | none => throw truncated
  | some i =>
    advance (i + 1)
    pure (r.rest.take (i + 1))

/-- Reads a line of at least one byte before its line end. -/
def fullLine : ReadM (List UInt8) := do
  let l ← line
  if l.length < 2 then throw truncated
  pure l

/-- Puts a value on the stack. -/
def push (v : Value) : ReadM Unit := modify fun r => { r with stack := v :: r.stack }

/-- The value on top of the stack, left there. -/
def top : ReadM Value := do
  let r ← get
  match r.stack with
  | v :: _ => if r.fence < r.height then pure v else underflow
  | [] => underflow

/-- Takes the value on top of the stack. -/
def pop : ReadM Value := do
  let v ← top
  modify fun r => { r with stack := r.stack.drop 1 }
  pure v

/-- Closes the latest mark, giving its height. -/
def marker : ReadM Nat := do
  let r ← get
  match r.marks with
  | [] => throw (failure "could not find MARK")
  | m :: ms =>
    set { r with marks := ms }
    pure m

/-- Cuts the stack down to a height. -/
def cutTo (h : Nat) : ReadM Unit :=
  modify fun r => { r with stack := r.stack.drop (r.height - h) }

/-- Takes the values above a height, the lowest first. -/
def popFrom (start : Nat) : ReadM (List Value) := do
  let r ← get
  if start < r.fence then underflow
  cutTo start
  pure (r.stack.take (r.height - start)).reverse

/-- The value at a position of the stack, counted from the bottom. -/
def valueAt (i : Nat) : ReadM Value := do
  let r ← get
  pure (r.stack.getD (r.height - 1 - i) .none)

/-- Replaces the value at a position of the stack, counted from the bottom. -/
def setAt (i : Nat) (v : Value) : ReadM Unit :=
  modify fun r => { r with stack := r.stack.set (r.height - 1 - i) v }

/-- The value kept under a number. -/
def memoGet (i : Int) : ReadM Value := do
  let r ← get
  let found := if i < 0 then none else (r.memo.find? (·.1 == i.toNat)).map (·.2)
  match found with
  | some v => pure v
  | none => throw (failure ("Memo value not found at index " ++ toString i))

/-- Keeps a value under a number; a number whose table would not fit in memory fails. -/
def memoPut (i : Nat) (v : Value) : ReadM Unit := do
  if 32 ≤ i && Memory.allocationLimit ≤ i * 16 then throw .outOfMemory
  modify fun r => { r with memo := (i, v) :: r.memo.filter (·.1 != i) }

end Snapshot

end LedMachine
