import LedMachine.Object.Access
import LedMachine.Object.Codec
import LedMachine.Object.Numbers
import LedMachine.Text.Blank

/-!
# Calling the built-in types

A saved file may name a built-in type and call it with arguments, as writing the value out
arranged. Each type builds its value as the language does: a byte array from a count, from
bytes, from a sequence of bytes or from a text and its encoding; a list, tuple or set from the
members of a value; a dictionary from pairs; a number or a text from another value. Wrong
arguments fail with the type's own messages.

A type may also be asked for a bare new value without running its set-up. For byte arrays, lists,
dictionaries and sets that value is empty whatever the arguments; the other types build their
value at once.
-/

namespace LedMachine

namespace Builtin

/-- The failure for too many arguments, in the wording of the given callee. -/
def tooMany (name : String) (most : Nat) (given : Nat) : Fault :=
  .raised .typeError (name ++ "() takes at most " ++ toString most ++ " arguments (" ++
    toString given ++ " given)")

/-- The failure for more than one argument to a type that takes at most one. -/
def atMostOne (name : String) (given : Nat) : Fault :=
  .raised .typeError (name ++ " expected at most 1 argument, got " ++ toString given)

/-- A text argument, or the failure naming the argument and its wrong type; a text argument
may not hold a null character. -/
def textArgument (callee arg : String) : Value → Except Fault String
  | .str s =>
    if s.contains (Char.ofNat 0) then .error (.raised .valueError "embedded null character") else .ok s
  | v => .error (.raised .typeError (callee ++ "() argument '" ++ arg ++ "' must be str, not " ++
      v.typeName))

/-- The bytes of a text by a named encoding and error rule. -/
def encodeText (s encoding errors : String) : Except Fault (List Nat) := do
  let c ← Codec.lookup encoding
  c.encode s errors

/-- The bytes a new byte string or byte array is built from, as `bytes` or `bytearray` (named
by `what`) takes its source, encoding and error rule. -/
def byteSource (what : String) (args : List Value) : Except Fault (List Nat) := do
  if 3 < args.length then throw (tooMany what 3 args.length)
  let encoding ← match args[1]? with
    | some e => some <$> textArgument what "encoding" e
    | Option.none => pure Option.none
  let errors ← match args[2]? with
    | some e => some <$> textArgument what "errors" e
    | Option.none => pure Option.none
  let noText : Fault := .raised .typeError "string argument without an encoding"
  let notText : Fault := .raised .typeError
    (if encoding.isSome then "encoding without a string argument" else "errors without a string argument")
  match args[0]? with
  | Option.none => pure []
  | some (Value.str s) =>
    match encoding with
    | some enc => encodeText s enc (errors.getD "strict")
    | Option.none => throw noText
  | some v =>
    if encoding.isSome || errors.isSome then throw notText
    Value.toByteList what v

/-- The members of each argument-taking collection type, from its single optional argument. -/
def membersOf (name : String) (args : List Value) : Except Fault (List Value) :=
  match args with
  | [] => .ok []
  | [x] => x.items
  | _ => .error (atMostOne name args.length)

/-- Members that must all be usable as keys: the first that is not fails. -/
def keys (xs : List Value) : Except Fault (List Value) :=
  match xs.findSome? Value.unhashable with
  | some t => .error (.raised .typeError ("unhashable type: '" ++ t ++ "'"))
  | Option.none => .ok xs

/-- The entries of a dictionary built from one value: another dictionary, or pairs. -/
def entriesOf (x : Value) : Except Fault (List (Value × Value)) := do
  match x with
  | .dict es => pure es
  | _ =>
    let members ← x.items
    let pairs ← (members.zip (List.range members.length)).mapM fun (m, i) =>
      match m.items with
      | .error _ => .error (.raised .typeError
          ("cannot convert dictionary update sequence element #" ++ toString i ++ " to a sequence"))
      | .ok [k, v] => .ok (k, v)
      | .ok other => .error (.raised .valueError ("dictionary update sequence element #" ++
          toString i ++ " has length " ++ toString other.length ++ "; 2 is required"))
    let _ ← keys (pairs.map Prod.fst)
    pure (pairs.foldl (fun acc (k, v) => Value.insertEntry k v acc) [])

/-- The integer a text reads as, as `int` reads it. -/
def intOfText (s : String) : Except Fault Int :=
  match readInt s with
  | .ok n => .ok n
  | .error e => .error (.raised .valueError e.message)

/-- The integer bytes read as, as `int` reads them. -/
def intOfBytes (bs : List Nat) : Except Fault Int :=
  let raw := bs.map UInt8.ofNat
  let quotedStart := String.ofList ((Value.bytesRepr (bs.take 200)).toList.take 200)
  let fail : Except Fault Int :=
    .error (.raised .valueError ("invalid literal for int() with base 10: " ++ quotedStart))
  match Numbers.integer raw 10 with
  | .ok n => if raw.contains 0 then fail else .ok n
  | .error (.raised .valueError m) =>
    if m.startsWith "Exceeds the limit" then .error (.raised .valueError m) else fail
  | .error _ => fail

/-- The floating-point bits a text reads as, as `float` reads it. -/
def floatOfText (shown : String) (s : String) : Except Fault UInt64 :=
  let fail : Except Fault UInt64 :=
    .error (.raised .valueError ("could not convert string to float: " ++ shown))
  let cs := s.toList.map numeralChar
  let isDigit (c : Char) : Bool := '0' ≤ c && c ≤ '9'
  let rec underscores : List Char → Char → List Char → Option (List Char)
    | [], prev, acc => if prev == '_' then Option.none else some acc.reverse
    | c :: rest, prev, acc =>
      if c == '_' then if isDigit prev then underscores rest c acc else Option.none
      else if prev == '_' && !isDigit c then Option.none
      else underscores rest c (c :: acc)
  match underscores cs '\x00' [] with
  | Option.none => fail
  | some cs =>
    let trimmed := (cs.dropWhile Text.isAsciiBlank).reverse.dropWhile Text.isAsciiBlank |>.reverse
    let bytes := trimmed.map fun c => UInt8.ofNat c.toNat
    match Numbers.floating bytes with
    | some (bits, stop, _) => if stop == bytes.length && !bytes.isEmpty then .ok bits else fail
    | Option.none => fail

/-- Calls `int` on its arguments. -/
def callInt (args : List Value) : Except Fault Value :=
  match args with
  | [] => .ok (.int 0)
  | [x] =>
    match x with
    | .int n => .ok (.int n)
    | .bool b => .ok (.int (if b then 1 else 0))
    | .float bits =>
      if Binary64.isNaN bits then .error (.raised .valueError "cannot convert float NaN to integer")
      else if Binary64.isInfinite bits then
        .error (.raised .overflowError "cannot convert float infinity to integer")
      else .ok (.int (Binary64.truncate bits))
    | .str s => Value.int <$> intOfText s
    | .bytes m | .bytearray m => Value.int <$> intOfBytes m.bytes
    | v => .error (.raised .typeError
        ("int() argument must be a string, a bytes-like object or a real number, not '" ++
          v.typeName ++ "'"))
  | [x, base] =>
    match Value.asInteger base with
    | some b =>
      if !(b == 0 || (2 ≤ b && b ≤ 36)) then
        .error (.raised .valueError "int() base must be >= 2 and <= 36, or 0")
      else
        let parse (raw : List UInt8) (shown : String) : Except Fault Value :=
          let fail : Except Fault Value := .error (.raised .valueError
            ("invalid literal for int() with base " ++ toString b ++ ": " ++ shown))
          match Numbers.integer raw b.toNat with
          | .ok n => if raw.contains 0 then fail else .ok (.int n)
          | .error (.raised .valueError m) =>
            if m.startsWith "Exceeds the limit" then .error (.raised .valueError m) else fail
          | .error _ => fail
        match x with
        | .str s =>
          parse (s.toList.map fun c => UInt8.ofNat (numeralChar c).toNat)
            (String.ofList ((Text.quoted s).toList.take 200))
        | .bytes m | .bytearray m =>
          parse (m.bytes.map UInt8.ofNat)
            (String.ofList ((Value.bytesRepr (m.bytes.take 200)).toList.take 200))
        | _ => .error (.raised .typeError "int() can't convert non-string with explicit base")
    | Option.none => .error (.raised .typeError
        ("'" ++ base.typeName ++ "' object cannot be interpreted as an integer"))
  | _ => .error (tooMany "int" 2 args.length)

/-- Calls `float` on its arguments. -/
def callFloat (args : List Value) : Except Fault Value :=
  match args with
  | [] => .ok (.float 0)
  | [x] =>
    match x with
    | .float b => .ok (.float b)
    | .int _ | .bool _ =>
      match Value.asFloatBits x with
      | some r => Value.float <$> r
      | Option.none => .ok (.float 0)
    | .str s => Value.float <$> floatOfText (Text.quoted s) s
    | .bytes m | .bytearray m =>
      Value.float <$> floatOfText (Value.bytesRepr m.bytes) (String.ofList (m.bytes.map Char.ofNat))
    | v => .error (.raised .typeError
        ("float() argument must be a string or a real number, not '" ++ v.typeName ++ "'"))
  | _ => .error (atMostOne "float" args.length)

/-- Calls `str` on its arguments. -/
def callStr (args : List Value) : Except Fault Value :=
  match args with
  | [] => .ok (.str "")
  | [x] => Value.str <$> x.text
  | x :: encoding :: rest => do
    if 3 < args.length then throw (tooMany "str" 3 args.length)
    let enc ← textArgument "str" "encoding" encoding
    let _ ← match rest with
      | [e] => textArgument "str" "errors" e
      | _ => pure "strict"
    match x with
    | .bytes m | .bytearray m => do
      let c ← Codec.lookup enc
      Value.str <$> c.decode m.bytes
    | .str _ => throw (.raised .typeError "decoding str is not supported")
    | v => throw (.raised .typeError
        ("decoding to str: need a bytes-like object, " ++ v.typeName ++ " found"))

/-- Calls the text-encoding function on its arguments. -/
def callEncode (args : List Value) : Except Fault Value := do
  if 3 < args.length then throw (tooMany "encode" 3 args.length)
  let enc ← match args[1]? with
    | some e => textArgument "encode" "encoding" e
    | Option.none => pure "utf-8"
  let errors ← match args[2]? with
    | some e => textArgument "encode" "errors" e
    | Option.none => pure "strict"
  match args[0]? with
  | Option.none => throw (.raised .typeError "encode() missing required argument 'obj' (pos 1)")
  | some x => do
    let c ← Codec.lookup enc
    match x with
    | .str s => Value.bytesOf <$> c.encode s errors
    | v =>
      let fn := match c with
        | .utf8 => "utf_8_encode" | .latin1 => "latin_1_encode" | .ascii => "ascii_encode"
      throw (.raised .typeError (fn ++ "() argument 1 must be str, not " ++ v.typeName))

/-- Calls a built-in on positional arguments. -/
def call (b : Builtin) (args : List Value) : Except Fault Value :=
  match b with
  | .bytearray => Value.ofBytes <$> byteSource "bytearray" args
  | .bytes => Value.bytesOf <$> byteSource "bytes" args
  | .list => Value.list <$> membersOf "list" args
  | .tuple => Value.tuple <$> membersOf "tuple" args
  | .set => do
    let xs ← keys (← membersOf "set" args)
    pure (.set (xs.foldl Value.addMember []))
  | .frozenset => do
    let xs ← keys (← membersOf "frozenset" args)
    pure (.frozenset (xs.foldl Value.addMember []))
  | .dict =>
    match args with
    | [] => .ok (.dict [])
    | [x] => Value.dict <$> entriesOf x
    | _ => .error (atMostOne "dict" args.length)
  | .int => callInt args
  | .str => callStr args
  | .float => callFloat args
  | .bool =>
    match args with
    | [] => .ok (.bool false)
    | [x] => .ok (.bool x.truthy)
    | _ => .error (atMostOne "bool" args.length)
  | .encode => callEncode args

/-- A bare new value of a built-in type, as the type's allocator makes it from arguments. -/
def create (b : Builtin) (args : List Value) : Except Fault Value :=
  match b with
  | .bytearray => .ok (Value.ofBytes [])
  | .list => .ok (.list [])
  | .dict => .ok (.dict [])
  | .set => .ok (.set [])
  | b => call b args

end Builtin

/-- Calls a value on positional arguments: only built-ins can be called. -/
def Value.call (f : Value) (args : List Value) : Except Fault Value :=
  match f with
  | .builtin b => b.call args
  | v => .error (.raised .typeError ("'" ++ v.typeName ++ "' object is not callable"))

end LedMachine
