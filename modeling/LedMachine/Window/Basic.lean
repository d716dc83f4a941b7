import LedMachine.Editor.Counter
import LedMachine.Machine.Step
import LedMachine.Storage.Scratchpad

/-!
# The editor window

The window around the machine: an editor holding the program text, labels for the status, the
alarm, the program counter and the byte counter, a memory panel with a bar per scratchpad cell,
breakpoints, the file being edited and the window's title, the dialogs it showed, and the
working directory its files and the scratchpad file live in.

The memory size may be set to a value that is no number; the machine then keeps its memory, and
every use of the size that needs a number fails as that value's type does.
-/

namespace LedMachine

/-- A value of the wrong type given as the memory size. -/
inductive BadSize where
  | text (s : String)
  | nothing
  deriving DecidableEq, Repr

namespace BadSize

/-- The type of the value. -/
def type : BadSize → ValueType
  | .text _ => .text
  | .nothing => .nothing

/-- The fault of making a memory of this size. -/
def allocFault : BadSize → Fault
  | .text _ => .textWithoutEncoding
  | .nothing => .notConvertible .nothing

end BadSize

/-- Everything the window holds and shows. -/
structure Window where
  /-- The machine. -/
  machine : Machine
  /-- The memory size, when it was set to a value that is no number. -/
  badSize : Option BadSize := none
  /-- The working directory. -/
  files : FileStore := FileStore.empty
  /-- The text printed since the current action began. -/
  printed : String := ""
  /-- The dialogs shown since the current action began, as title and text. -/
  dialogs : List (String × String) := []
  /-- The status label. -/
  status : String := "Ready"
  /-- The alarm label. -/
  errorText : String := ""
  /-- The byte counter. -/
  counterText : String := "0/64 BYTES USED"
  /-- Whether the byte counter last said the program fits with room to spare. -/
  counterFits : Option Bool := none
  /-- The program counter label. -/
  pcText : String := "PC: 0"
  /-- The memory panel. -/
  memoryText : String := ""
  /-- The memory panel's title. -/
  memoryTitle : String := "RAM (64 bytes)"
  /-- The scratchpad bars, each unset or showing a value. -/
  bars : List (Option Value) := List.replicate scratchSize none
  /-- The program text. -/
  editor : String := ""
  /-- The file being edited. -/
  currentFile : Option String := none
  /-- The window title. -/
  title : String := "Forgematrix"
  /-- The lines with a breakpoint, ascending. -/
  breakpoints : List Int := []
  /-- Whether the help was shown. -/
  helpShown : Bool := false

/-- Operations on the window that may end early with a fault. -/
abbrev WindowM := EStateM Fault Window

namespace Window

/-- The size of the memory of a new window. -/
def initialSize : Nat := 64

/-- A new window: a machine of 64 zero cells, an empty editor and an empty working directory. -/
def initial : Window :=
  { machine := { size := initialSize, ram := Memory.zeros initialSize,
                 scratch := freshScratch } }

/-- The memory size as the window knows it. -/
def sizeValue (w : Window) : SizeValue :=
  match w.badSize with
  | some (.text s) => .text s
  | some .nothing => .nothing
  | none => .number w.machine.size

/-- Runs an operation of the machine on the window's machine. -/
def onMachine {α : Type} (op : MachineM α) : WindowM α := fun w =>
  match op.run w.machine with
  | .ok a m => .ok a { w with machine := m }
  | .error f m => .error f { w with machine := m }

/-- Prints a line. -/
def print (line : String) : WindowM Unit :=
  modify fun w => { w with printed := w.printed ++ line }

/-- Shows a dialog. -/
def dialog (title text : String) : WindowM Unit :=
  modify fun w => { w with dialogs := w.dialogs ++ [(title, text)] }

/-- Sets the status label. -/
def setStatus (s : String) : WindowM Unit :=
  modify fun w => { w with status := s }

/-- Saves the scratchpad to its file, or prints why it could not. -/
def saveScratch : WindowM Unit := do
  let w ← get
  match w.files.saveScratch w.machine.scratch with
  | .ok files => set { w with files }
  | .error e => print (saveFailureLine e)

/-- Reads the scratchpad back from its file if the file exists, or prints why it could not. -/
def restoreScratch : WindowM Unit := do
  let w ← get
  match w.files.restoreScratch with
  | none => pure ()
  | some (.ok v) => set { w with machine.scratch := v }
  | some (.error e) => print (restoreFailureLine e)

end Window

end LedMachine
