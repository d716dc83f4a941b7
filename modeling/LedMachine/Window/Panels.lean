import LedMachine.Window.Basic

/-!
# The window's panels

The memory panel shows the memory in rows of eight bytes, each row led by the address of its
first byte in decimal (at least two digits) and the bytes in upper-case hexadecimal. Rows run up
to the declared size, so a size that is no multiple of eight reads past the memory and faults
before the panel changes. After the rows, the bars show the scratchpad.

The counter label shows the program counter and, during a wait, how far the wait has come; it
brings the byte counter up to date as well.
-/

namespace LedMachine

namespace Window

/-- The address that leads a memory row: decimal, padded with zeros to two digits. -/
def rowLabel (i : Nat) : String :=
  let s := toString i
  if s.length < 2 then "0" ++ s else s

/-- One row of the memory panel: the eight bytes from address `i`. -/
def memoryRow (mem : Memory) (i : Nat) : Except Fault String := do
  let bytes ← (List.range 8).mapM fun j => mem.get ((i + j : Nat) : Int)
  pure (rowLabel i ++ ": " ++
    " ".intercalate (bytes.map fun b => String.ofList (Text.hexDigitsUpper 2 b)) ++ "\n")

/-- The rows from address `i` on, `count` of them, after the text `acc`. -/
def memoryRows (mem : Memory) : Nat → Nat → String → Except Fault String
  | 0, _, acc => pure acc
  | count + 1, i, acc => do
    let row ← memoryRow mem i
    memoryRows mem count (i + 8) (acc ++ row)

/-- The number of rows for a declared size: one for every eight addresses begun. -/
def rowCount (size : Int) : Nat := (size.toNat + 7) / 8

/-- The scratchpad bars after showing the scratchpad's members: a bar per member, as long as
there are bars. -/
def barsFor (members : List Value) (old : List (Option Value)) : List (Option Value) :=
  (members.take scratchSize).map some ++ old.drop members.length

/-- Shows the scratchpad's members on the bars, in order; a scratchpad that cannot be walked
faults, and one with more members than bars faults after filling them. -/
def showBars : WindowM Unit := do
  let w ← get
  match w.machine.scratch.items with
  | .error f => throw f
  | .ok members =>
    set { w with bars := barsFor members w.bars }
    if scratchSize < members.length then throw .missingOperand

/-- Shows the memory and the scratchpad. -/
def showMemory : WindowM Unit := do
  let w ← get
  match w.badSize with
  | some b => throw (.notACount b.type)
  | none =>
    match memoryRows w.machine.ram (rowCount w.machine.size) 0 "" with
    | .error f => throw f
    | .ok text =>
      set { w with memoryText := text }
      showBars

/-- Brings the byte counter up to date. -/
def showByteCount : WindowM Unit :=
  modify fun w =>
    let (text, fits) := (tally w.editor).label w.sizeValue
    { w with counterText := text, counterFits := some fits }

/-- The label of a machine's program counter, with the progress of a wait under way. -/
def pcLabel (m : Machine) : String :=
  "PC: " ++ toString m.pc ++
    if 0 < m.delay then
      " | WAIT: " ++ toString (m.activeDelay - m.delay + 1) ++ "/" ++ toString m.activeDelay
    else ""

/-- Shows the program counter, then brings the byte counter up to date. -/
def showCounter : WindowM Unit := do
  modify fun w => { w with pcText := pcLabel w.machine }
  showByteCount

/-- Marks the source line of the program counter; the machine must have a line map. -/
def markCurrentLine : WindowM Unit := do
  if (← get).machine.lines.isNone then throw .noLineMap

end Window

end LedMachine
