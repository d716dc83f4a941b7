import LedMachine.Fault
import LedMachine.Opcode

/-!
# Alarms

An alarm is the machine's own report of what went wrong: an instruction it could not carry out,
or a source line it could not load. Unlike a fault it does not end the operation that raised it;
it stops the machine and stays until the next load or reset. Each alarm has one message.
-/

namespace LedMachine

/-- Why a source line could not be loaded. -/
inductive LineError where
  /-- The entry point lies beyond the memory. -/
  | entryOutOfRange
  /-- A coordinate pair is not two numerals. -/
  | badPair (text : String)
  /-- Setting or clearing pixels names no pair. -/
  | noPairs (op : Opcode)
  /-- The instruction does not fit in the memory left. -/
  | noRoom
  /-- A memory address lies beyond the memory. -/
  | addressOutOfRange (addr : Int)
  /-- One of several memory addresses lies beyond the memory. -/
  | addressesOutOfRange
  /-- A scratchpad address lies beyond the scratchpad. -/
  | scratchOutOfRange (addr : Int)
  /-- One of several scratchpad addresses lies beyond the scratchpad. -/
  | scratchesOutOfRange
  /-- The memory address of a scratchpad transfer lies beyond the memory. -/
  | cellOutOfRange (addr : Int)
  /-- The target of a scratchpad jump lies beyond the memory. -/
  | targetOutOfRange (addr : Int)
  /-- The line starts with no known command. -/
  | unknownCommand (name : String)
  /-- A bad index or value met while loading the line. -/
  | fault (f : Fault)
  deriving DecidableEq, Repr

/-- The message of a line error. -/
def LineError.message : LineError → String
  | .entryOutOfRange => "Entry point out of range"
  | .badPair text => "Invalid pair '" ++ text ++ "'"
  | .noPairs op => op.mnemonic ++ " requires pairs"
  | .noRoom => "Not enough RAM"
  | .addressOutOfRange a => "Address " ++ toString a ++ " out of range"
  | .addressesOutOfRange => "Address out of range"
  | .scratchOutOfRange a => "Scratchpad address " ++ toString a ++ " out of range"
  | .scratchesOutOfRange => "Scratchpad address out of range"
  | .cellOutOfRange a => "RAM address " ++ toString a ++ " out of range"
  | .targetOutOfRange a => "Jump address " ++ toString a ++ " out of range"
  | .unknownCommand name => "Unknown command '" ++ name ++ "'"
  | .fault f => f.message

/-- The machine's report of what went wrong. -/
inductive Alarm where
  /-- The program counter lies beyond the memory. -/
  | counterOutOfRange
  /-- Setting or clearing pixels finds no count byte. -/
  | missingCount (op : Opcode)
  /-- Setting or clearing pixels finds half a pair. -/
  | incompletePair (op : Opcode)
  /-- Setting or clearing pixels names a pixel off the grid. -/
  | badCoordinates (op : Opcode) (x y : Nat)
  /-- The operand bytes of an instruction run past the memory. -/
  | missingOperands
  /-- A stored or shown cell lies beyond the memory. -/
  | badCell (addr : Nat)
  /-- A jump target lies beyond the memory. -/
  | badTarget (addr : Nat)
  /-- One of the cells of an operation lies beyond the memory. -/
  | badCells
  /-- The target or the tested cell of a jump lies beyond the memory. -/
  | badTargetOrCell
  /-- A scratchpad cell to store lies beyond the scratchpad. -/
  | badScratchCell (addr : Nat)
  /-- The scratchpad cell or the memory cell of a transfer to memory is out of range. -/
  | badScratchOrCell
  /-- One of the scratchpad cells of an addition lies beyond the scratchpad. -/
  | badScratchCells
  /-- The memory cell or the scratchpad cell of a transfer to the scratchpad is out of range. -/
  | badCellOrScratch
  /-- The target or the tested scratchpad cell of a jump is out of range. -/
  | badTargetOrScratch
  /-- A byte that is no instruction. -/
  | unknownOpcode (code : Nat)
  /-- A source line could not be loaded. -/
  | badLine (line : Nat) (e : LineError)
  /-- A report written from outside. -/
  | note (text : String)
  deriving DecidableEq, Repr

/-- The message of an alarm. -/
def Alarm.message : Alarm → String
  | .counterOutOfRange => "Program counter out of range"
  | .missingCount op => "Missing count in " ++ op.mnemonic
  | .incompletePair op => "Incomplete pair in " ++ op.mnemonic
  | .badCoordinates op x y =>
    "Invalid " ++ op.mnemonic ++ " coordinates (" ++ toString x ++ ", " ++ toString y ++ ")"
  | .missingOperands => "Instruction arguments out of range"
  | .badCell a => "Invalid RAM address: " ++ toString a
  | .badTarget a => "Invalid jump address: " ++ toString a
  | .badCells => "Invalid RAM address"
  | .badTargetOrCell => "Invalid jump address or RAM address"
  | .badScratchCell a => "Invalid scratchpad address: " ++ toString a
  | .badScratchOrCell => "Invalid scratchpad or RAM address"
  | .badScratchCells => "Invalid scratchpad address"
  | .badCellOrScratch => "Invalid RAM or scratchpad address"
  | .badTargetOrScratch => "Invalid jump address or scratchpad address"
  | .unknownOpcode b => "Unknown opcode: " ++ toString b
  | .badLine n e => "Error on line " ++ toString n ++ ": " ++ e.message
  | .note text => text

example : (Alarm.badLine 3 (.badPair "A B")).message = "Error on line 3: Invalid pair 'A B'" := by
  decide
example : (Alarm.badCoordinates .clear 4 0).message = "Invalid CLEAR coordinates (4, 0)" := by
  decide

end LedMachine
