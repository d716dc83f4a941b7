import LedMachine.Object.Compare
import LedMachine.Numeral

/-!
# The printed form of values

A value prints as it would be written back: texts and byte strings quoted with their escapes,
collections with their members' printed forms between their brackets, types by their names. An
integer of more than 4300 digits has no printed form; printing it fails as reading one fails.
-/

namespace LedMachine

namespace Value

/-- The printed form of bytes between the quotes of a byte string. -/
def bytesBody (q : Char) (bs : List Nat) : String :=
  String.join <| bs.map fun b =>
    if b == 0x5C then "\\\\"
    else if b == q.toNat then "\\" ++ String.singleton q
    else if b == 9 then "\\t"
    else if b == 10 then "\\n"
    else if b == 13 then "\\r"
    else if 0x20 ≤ b && b < 0x7F then String.singleton (Char.ofNat b)
    else "\\x" ++ String.ofList (Text.hexDigits 2 b)

/-- The printed form of a byte string: double quotes only if it holds a single quote and no
double quote. -/
def bytesRepr (bs : List Nat) : String :=
  let q := if bs.contains 0x27 && !bs.contains 0x22 then '"' else Text.singleQuote
  "b" ++ String.singleton q ++ bytesBody q bs ++ String.singleton q

/-- The decimal digits of an integer, failing beyond 4300 digits. -/
def intText (n : Int) : Except Fault String :=
  let ds := Nat.toDigits 10 n.natAbs
  if digitLimit < ds.length then
    .error (.raised .valueError ("Exceeds the limit (" ++ toString digitLimit ++
      " digits) for integer string conversion; use sys.set_int_max_str_digits() to increase the limit"))
  else .ok ((if n < 0 then "-" else "") ++ String.ofList ds)

/-- The printed form of a value, looking at most `depth` levels into nested collections. -/
def reprWithin : Nat → Value → Except Fault String
  | 0, _ => .ok "..."
  | depth + 1, v =>
    let joined (xs : List Value) : Except Fault String := do
      pure (", ".intercalate (← xs.mapM (reprWithin depth)))
    match v with
    | .none => .ok "None"
    | .bool b => .ok (if b then "True" else "False")
    | .int n => intText n
    | .float bits => .ok (Binary64.render bits)
    | .str s => .ok (Text.quoted s)
    | .bytes m => .ok (bytesRepr m.bytes)
    | .bytearray m => .ok ("bytearray(" ++ bytesRepr m.bytes ++ ")")
    | .list xs => do pure ("[" ++ (← joined xs) ++ "]")
    | .tuple [x] => do pure ("(" ++ (← reprWithin depth x) ++ ",)")
    | .tuple xs => do pure ("(" ++ (← joined xs) ++ ")")
    | .dict es => do
      let parts ← es.mapM fun (k, x) => do
        pure ((← reprWithin depth k) ++ ": " ++ (← reprWithin depth x))
      pure ("\x7b" ++ ", ".intercalate parts ++ "\x7d")
    | .set [] => .ok "set()"
    | .set xs => do pure ("\x7b" ++ (← joined xs) ++ "\x7d")
    | .frozenset [] => .ok "frozenset()"
    | .frozenset xs => do pure ("frozenset(\x7b" ++ (← joined xs) ++ "\x7d)")
    | .builtin b =>
      .ok (if b.isType then "<class '" ++ b.name ++ "'>" else "<built-in function " ++ b.name ++ ">")

/-- The printed form of a value. -/
def repr (v : Value) : Except Fault String := reprWithin nestingLimit v

/-- The text form of a value: a text is itself, anything else its printed form. -/
def text : Value → Except Fault String
  | .str s => .ok s
  | v => repr v

end Value

end LedMachine
