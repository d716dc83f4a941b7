import LedMachine.Memory
import LedMachine.Text.Quoted

/-!
# Values

The scratchpad is whatever value its file last held. A machine starts with eight zero bytes, but a
file written by hand may hold a list, a number or text, and the machine then works on that value
as it is. This module gives the values: nothing, truth values, integers, floating-point numbers
(kept as their 64 bits), texts, byte strings, byte arrays, lists, tuples, dictionaries, sets and
the built-in types themselves, which a saved file may name and call.

Each value has a type name, which failures quote, and a printed form.
-/

namespace LedMachine

/-- A built-in type, or the text-encoding function, which a saved file may name and call to
build a value. -/
inductive Builtin where
  | bytearray
  | bytes
  | list
  | tuple
  | dict
  | set
  | frozenset
  | int
  | str
  | float
  | bool
  /-- The function that turns a text into bytes by a named encoding. -/
  | encode
  deriving DecidableEq, Repr

/-- The name of a built-in type. -/
def Builtin.name : Builtin → String
  | .bytearray => "bytearray"
  | .bytes => "bytes"
  | .list => "list"
  | .tuple => "tuple"
  | .dict => "dict"
  | .set => "set"
  | .frozenset => "frozenset"
  | .int => "int"
  | .str => "str"
  | .float => "float"
  | .bool => "bool"
  | .encode => "encode"

/-- Whether a built-in is a type, rather than a function. -/
def Builtin.isType : Builtin → Bool
  | .encode => false
  | _ => true

/-- The built-in types. -/
def Builtin.types : List Builtin :=
  [.bytearray, .bytes, .list, .tuple, .dict, .set, .frozenset, .int, .str, .float, .bool]

/-- The built-in type of a name. -/
def Builtin.typeOfName? (name : String) : Option Builtin :=
  Builtin.types.find? (·.name == name)

/-- A value. -/
inductive Value where
  | none
  | bool (b : Bool)
  | int (n : Int)
  /-- A floating-point number, by the 64 bits of its binary form. -/
  | float (bits : UInt64)
  | str (s : String)
  | bytes (m : Memory)
  | bytearray (m : Memory)
  | list (items : List Value)
  | tuple (items : List Value)
  /-- A dictionary, its entries in the order they were first put. -/
  | dict (entries : List (Value × Value))
  | set (items : List Value)
  | frozenset (items : List Value)
  | builtin (b : Builtin)
  deriving Repr, Inhabited

namespace Value

/-- The name of a value's type, as failures quote it. -/
def typeName : Value → String
  | .none => "NoneType"
  | .bool _ => "bool"
  | .int _ => "int"
  | .float _ => "float"
  | .str _ => "str"
  | .bytes _ => "bytes"
  | .bytearray _ => "bytearray"
  | .list _ => "list"
  | .tuple _ => "tuple"
  | .dict _ => "dict"
  | .set _ => "set"
  | .frozenset _ => "frozenset"
  | .builtin b => if b.isType then "type" else "builtin_function_or_method"

/-- A byte array of the given bytes. -/
def ofBytes (bs : List Nat) : Value := .bytearray (Memory.ofBytes bs)

/-- A byte string of the given bytes. -/
def bytesOf (bs : List Nat) : Value := .bytes (Memory.ofBytes bs)

end Value

end LedMachine
