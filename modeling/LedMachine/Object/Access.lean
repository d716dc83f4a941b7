import LedMachine.Object.Compare

/-!
# Reading, writing and walking values

The scratchpad's cells are read and written by index, whatever the scratchpad holds. Byte arrays,
byte strings, lists, tuples and texts are read at a position, counted from the end when negative;
dictionaries are read under the index as a key. Only byte arrays, lists and dictionaries can be
written; a byte array takes only bytes. Each failure carries the text of its kind of value.

The module also walks a value's members in order, turns a value into bytes as a new byte string
is built from it, adds two values and masks a value to its low byte, as the scratchpad's
instructions do.
-/

namespace LedMachine

namespace Value

/-- A failure of a type. -/
def typeError (message : String) : Fault := .raised .typeError message

/-- The position an index names in a sequence of `size` members: counted from the end when
negative; an index too wide for a machine word fails first. -/
def position (size : Nat) (i : Int) (what : String) : Except Fault Nat :=
  if !Memory.fitsWord i then .error .indexTooWide
  else match Memory.position? size i with
    | some p => .ok p
    | Option.none => .error (.raised .indexError (what ++ " index out of range"))

/-- The member of a value at an index. -/
def getItem (v : Value) (i : Int) : Except Fault Value :=
  match v with
  | .bytearray m => do pure (.int (← m.get i))
  | .bytes m => do
    let p ← position m.size i "index"
    pure (.int (m.cells.getD p 0).toNat)
  | .list xs => do let p ← position xs.length i "list"; pure (xs.getD p .none)
  | .tuple xs => do let p ← position xs.length i "tuple"; pure (xs.getD p .none)
  | .str s => do
    let cs := s.toList
    let p ← position cs.length i "string"
    pure (.str (String.singleton (cs.getD p ' ')))
  | .dict es =>
    match lookup (.int i) es with
    | some x => .ok x
    | Option.none => .error (.raised .keyError (toString i))
  | .builtin b =>
    if b.isType then .error (typeError ("type '" ++ b.name ++ "' is not subscriptable"))
    else .error (typeError "'builtin_function_or_method' object is not subscriptable")
  | v => .error (typeError ("'" ++ v.typeName ++ "' object is not subscriptable"))

/-- The byte a value stands for when stored in a byte array. -/
def byteOf : Value → Except Fault Nat
  | .int n => if 0 ≤ n ∧ n < 256 then .ok n.toNat else .error .notAByte
  | .bool b => .ok (if b then 1 else 0)
  | v => .error (typeError ("'" ++ v.typeName ++ "' object cannot be interpreted as an integer"))

/-- A value with its member at an index replaced. -/
def setItem (v : Value) (i : Int) (x : Value) : Except Fault Value :=
  match v with
  | .bytearray m => do
    if !Memory.fitsWord i then throw .indexTooWide
    let b ← byteOf x
    pure (.bytearray (← m.set i b))
  | .list xs => do
    let p ← position xs.length i "list assignment"
    pure (.list (xs.set p x))
  | .dict es => .ok (.dict (insertEntry (.int i) x es))
  | v => .error (typeError ("'" ++ v.typeName ++ "' object does not support item assignment"))

/-- The members of a value, in the order it yields them. -/
def items : Value → Except Fault (List Value)
  | .bytes m | .bytearray m => .ok (m.bytes.map fun (b : Nat) => Value.int b)
  | .list xs | .tuple xs | .set xs | .frozenset xs => .ok xs
  | .str s => .ok (s.toList.map fun c => .str (String.singleton c))
  | .dict es => .ok (es.map Prod.fst)
  | v => .error (typeError ("'" ++ v.typeName ++ "' object is not iterable"))

/-- The bytes of a new byte string or byte array built from a value alone; `what` names the
kind being built, `bytes` or `bytearray`. -/
def toByteList (what : String) (v : Value) : Except Fault (List Nat) :=
  let fromItems (xs : List Value) : Except Fault (List Nat) :=
    xs.mapM fun x =>
      match byteOf x with
      | .error .notAByte =>
        .error (.raised .valueError
          ((if what == "bytes" then "bytes" else "byte") ++ " must be in range(0, 256)"))
      | r => r
  match v with
  | .int n => do pure (List.replicate (← Memory.alloc n).size 0)
  | .bool b => .ok (if b then [0] else [])
  | .bytes m | .bytearray m => .ok m.bytes
  | .str _ => .error (typeError "string argument without an encoding")
  | .list xs | .tuple xs | .set xs | .frozenset xs => fromItems xs
  | .dict es => fromItems (es.map Prod.fst)
  | v => .error (typeError ("cannot convert '" ++ v.typeName ++ "' object to " ++ what))

/-- The bytes a new byte string built from a value holds, in lower-case hexadecimal; none when
no byte string can be built from it. -/
def hex (v : Value) : Option String :=
  match toByteList "bytes" v with
  | .ok bs => some (Memory.ofBytes bs).hex
  | .error _ => Option.none

/-- A number as an integer, when it is a truth value or an integer. -/
def asInteger : Value → Option Int
  | .int n => some n
  | .bool b => some (if b then 1 else 0)
  | _ => Option.none

/-- A number as floating-point bits, failing for an integer too large; `none` for values that
are no number. -/
def asFloatBits : Value → Option (Except Fault UInt64)
  | .float b => some (.ok b)
  | v => (asInteger v).map fun n =>
    let (b, overflowed) := Binary64.ofInt n
    if overflowed then .error (.raised .overflowError "int too large to convert to float") else .ok b

/-- The result of adding two values. -/
def add (x y : Value) : Except Fault Value :=
  let unsupported : Except Fault Value :=
    .error (typeError ("unsupported operand type(s) for +: '" ++ x.typeName ++ "' and '" ++
      y.typeName ++ "'"))
  match x, y with
  | .str a, .str b => .ok (.str (a ++ b))
  | .str _, _ => .error (typeError ("can only concatenate str (not \"" ++ y.typeName ++ "\") to str"))
  | .list a, .list b => .ok (.list (a ++ b))
  | .list _, _ => .error (typeError ("can only concatenate list (not \"" ++ y.typeName ++ "\") to list"))
  | .tuple a, .tuple b => .ok (.tuple (a ++ b))
  | .tuple _, _ =>
    .error (typeError ("can only concatenate tuple (not \"" ++ y.typeName ++ "\") to tuple"))
  | .bytes a, .bytes b | .bytes a, .bytearray b => .ok (.bytes ⟨a.cells ++ b.cells⟩)
  | .bytearray a, .bytes b | .bytearray a, .bytearray b => .ok (.bytearray ⟨a.cells ++ b.cells⟩)
  | .bytes _, _ | .bytearray _, _ =>
    .error (typeError ("can't concat " ++ y.typeName ++ " to " ++ x.typeName))
  | _, _ =>
    match asInteger x, asInteger y with
    | some a, some b => .ok (.int (a + b))
    | _, _ =>
      match asFloatBits x, asFloatBits y with
      | some a, some b => do
        let a ← a
        let b ← b
        pure (.float (Float.toBits (Float.ofBits a + Float.ofBits b)))
      | _, _ => unsupported

/-- The low byte of a value, as masking it with 255 gives. -/
def lowByte : Value → Except Fault Value
  | .int n => .ok (.int (n % 256))
  | .bool b => .ok (.int (if b then 1 else 0))
  | v => .error (typeError ("unsupported operand type(s) for &: '" ++ v.typeName ++ "' and 'int'"))

/-- Whether a value is greater than zero. -/
def positive : Value → Except Fault Bool
  | .int n => .ok (0 < n)
  | .bool b => .ok b
  | .float bits => .ok (!Binary64.isNaN bits && !Binary64.isZero bits && !Binary64.negative bits)
  | v => .error (typeError ("'>' not supported between instances of '" ++ v.typeName ++ "' and 'int'"))

end Value

end LedMachine
