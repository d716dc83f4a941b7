import LedMachine.Numeral

/-!
# Faults

A fault ends an operation early and reaches whoever asked for it. Each fault has a kind, the name
of its class of failure, and a message.
-/

namespace LedMachine

/-- What a value of the wrong type was, as a fault names it. -/
inductive ValueType where
  | integer
  | text
  | nothing
  deriving DecidableEq, Repr

/-- The name of a value type. -/
def ValueType.name : ValueType → String
  | .integer => "int"
  | .text => "str"
  | .nothing => "NoneType"

/-- The class of a failure that carries its own message. -/
inductive ErrorClass where
  | indexError
  | typeError
  | valueError
  | keyError
  | attributeError
  | overflowError
  | memoryError
  | lookupError
  | unicodeDecodeError
  | unicodeEncodeError
  | eofError
  | unpicklingError
  | moduleNotFoundError
  | isADirectoryError
  | notADirectoryError
  | fileNotFoundError
  | fileExistsError
  | osError
  | unboundLocalError
  deriving DecidableEq, Repr

/-- The name of a class of failure. -/
def ErrorClass.name : ErrorClass → String
  | .indexError => "IndexError"
  | .typeError => "TypeError"
  | .valueError => "ValueError"
  | .keyError => "KeyError"
  | .attributeError => "AttributeError"
  | .overflowError => "OverflowError"
  | .memoryError => "MemoryError"
  | .lookupError => "LookupError"
  | .unicodeDecodeError => "UnicodeDecodeError"
  | .unicodeEncodeError => "UnicodeEncodeError"
  | .eofError => "EOFError"
  | .unpicklingError => "UnpicklingError"
  | .moduleNotFoundError => "ModuleNotFoundError"
  | .isADirectoryError => "IsADirectoryError"
  | .notADirectoryError => "NotADirectoryError"
  | .fileNotFoundError => "FileNotFoundError"
  | .fileExistsError => "FileExistsError"
  | .osError => "OSError"
  | .unboundLocalError => "UnboundLocalError"

/-- A failure that ends an operation early. -/
inductive Fault where
  /-- A memory index names no cell. -/
  | noSuchCell
  /-- An index is too large to be an index at all. -/
  | indexTooWide
  /-- A value to store in a cell is not a byte. -/
  | notAByte
  /-- An instruction lacks an operand. -/
  | missingOperand
  /-- An operand is no numeral. -/
  | badNumeral (e : NumeralError)
  /-- A memory of negative size was asked for. -/
  | negativeSize
  /-- A memory size too large to be a size was asked for. -/
  | sizeTooWide
  /-- A memory too large to allocate was asked for. -/
  | outOfMemory
  /-- The machine was asked for its line map before it had one. -/
  | noLineMap
  /-- A number was compared with a value of another type. -/
  | incomparable (op : String) (other : ValueType)
  /-- A value of another type was used as a count. -/
  | notACount (other : ValueType)
  /-- A memory was to be built from a text. -/
  | textWithoutEncoding
  /-- A memory was to be built from a value of another type. -/
  | notConvertible (other : ValueType)
  /-- Any other failure, with its class and message. -/
  | raised (cls : ErrorClass) (message : String)
  deriving DecidableEq, Repr

namespace Fault

/-- The class of failure a fault belongs to. -/
def kind : Fault → String
  | .noSuchCell | .indexTooWide | .missingOperand => "IndexError"
  | .notAByte | .badNumeral _ | .negativeSize => "ValueError"
  | .sizeTooWide => "OverflowError"
  | .outOfMemory => "MemoryError"
  | .noLineMap => "AttributeError"
  | .incomparable _ _ | .notACount _ | .textWithoutEncoding | .notConvertible _ => "TypeError"
  | .raised c _ => c.name

/-- The message of a fault. -/
def message : Fault → String
  | .noSuchCell => "bytearray index out of range"
  | .indexTooWide | .sizeTooWide => "cannot fit 'int' into an index-sized integer"
  | .notAByte => "byte must be in range(0, 256)"
  | .missingOperand => "list index out of range"
  | .badNumeral e => e.message
  | .negativeSize => "negative count"
  | .outOfMemory => ""
  | .noLineMap => "'Emulator' object has no attribute 'pc_to_line'"
  | .incomparable op other =>
    "'" ++ op ++ "' not supported between instances of 'int' and '" ++ other.name ++ "'"
  | .notACount other => "'" ++ other.name ++ "' object cannot be interpreted as an integer"
  | .textWithoutEncoding => "string argument without an encoding"
  | .notConvertible other => "cannot convert '" ++ other.name ++ "' object to bytearray"
  | .raised _ m => m

/-- Whether a fault is one that loading a program catches and reports as a bad line: a bad index
or a bad value. -/
def isLineFault (f : Fault) : Bool := f.kind = "IndexError" || f.kind = "ValueError"

end Fault

end LedMachine
