import LedMachine.Object.Value
import LedMachine.Object.Float

/-!
# Comparing values

Values compare as the numbers, texts and collections they stand for: truth values, integers and
floating-point numbers are all numbers and compare exactly across their kinds; byte strings and
byte arrays compare by their bytes; lists and tuples element by element; dictionaries by their
entries in any order; sets by their members. A value can be a dictionary key or a set member only
if it cannot change: byte arrays, lists, dictionaries and sets cannot be.
-/

namespace LedMachine

namespace Value

/-- A number as an exact fraction with its sign, when the value is a finite number. -/
def exactNumber : Value → Option (Bool × Nat × Nat)
  | .bool b => some (false, if b then 1 else 0, 1)
  | .int n => some (n < 0, n.natAbs, 1)
  | .float bits =>
    if Binary64.isNaN bits || Binary64.isInfinite bits then Option.none
    else
      let (m, e) := Binary64.magnitude bits
      let neg := Binary64.negative bits && m != 0
      if 0 ≤ e then some (neg, m * Nat.pow 2 e.toNat, 1) else some (neg, m, Nat.pow 2 (-e).toNat)
  | _ => Option.none

/-- Whether a value is a number: a truth value, an integer or a floating-point number. -/
def isNumber : Value → Bool
  | .bool _ | .int _ | .float _ => true
  | _ => false

/-- Whether two numbers are equal. -/
def numbersEqual (x y : Value) : Bool :=
  match x, y with
  | .float a, .float b =>
    !Binary64.isNaN a && !Binary64.isNaN b &&
      (a == b || (Binary64.isZero a && Binary64.isZero b))
  | _, _ =>
    match x.exactNumber, y.exactNumber with
    | some (s, n, d), some (t, m, e) => (n == 0 && m == 0) || (s == t && n * e == m * d)
    | _, _ => false

/-- Whether two values are equal, looking at most `depth` levels into nested collections;
deeper values count as unequal. -/
def equalWithin : Nat → Value → Value → Bool
  | 0, _, _ => false
  | depth + 1, x, y =>
    match x, y with
    | .none, .none => true
    | .str a, .str b => a == b
    | .bytes a, .bytes b | .bytes a, .bytearray b | .bytearray a, .bytes b
    | .bytearray a, .bytearray b => a.cells == b.cells
    | .list a, .list b | .tuple a, .tuple b =>
      a.length == b.length && (a.zip b).all fun (p, q) => equalWithin depth p q
    | .dict a, .dict b =>
      a.length == b.length && a.all fun (k, v) =>
        match b.find? (fun (k', _) => equalWithin depth k k') with
        | some (_, v') => equalWithin depth v v'
        | Option.none => false
    | .set a, .set b | .set a, .frozenset b | .frozenset a, .set b | .frozenset a, .frozenset b =>
      a.length == b.length && a.all fun p => b.any fun q => equalWithin depth p q
    | .builtin a, .builtin b => a == b
    | x, y => x.isNumber && y.isNumber && numbersEqual x y

/-- How deep equality looks into nested collections. -/
def nestingLimit : Nat := 1000

/-- Whether two values are equal. -/
def equal (x y : Value) : Bool := equalWithin nestingLimit x y

/-- Whether a value is a member of a set. -/
def memberIn (x : Value) (xs : List Value) : Bool := xs.any (equal x)

mutual
/-- The type name of the first part of a value that cannot be a key, if any. -/
def unhashable : Value → Option String
  | .bytearray _ => some "bytearray"
  | .list _ => some "list"
  | .dict _ => some "dict"
  | .set _ => some "set"
  | .tuple xs => unhashableAmong xs
  | _ => Option.none

/-- The type name of the first part that cannot be a key, among values. -/
def unhashableAmong : List Value → Option String
  | [] => Option.none
  | x :: xs => (unhashable x).orElse fun _ => unhashableAmong xs
end

/-- Whether a value counts as true. -/
def truthy : Value → Bool
  | .none => false
  | .bool b => b
  | .int n => n != 0
  | .float bits => !Binary64.isZero bits
  | .str s => !s.isEmpty
  | .bytes m | .bytearray m => m.size != 0
  | .list xs | .tuple xs | .set xs | .frozenset xs => !xs.isEmpty
  | .dict es => !es.isEmpty
  | .builtin _ => true

/-- The value stored under a key of a dictionary. -/
def lookup (k : Value) : List (Value × Value) → Option Value
  | [] => Option.none
  | (k', v) :: rest => if equal k k' then some v else lookup k rest

/-- A dictionary with a key set to a value: an equal key keeps its place and itself. -/
def insertEntry (k v : Value) : List (Value × Value) → List (Value × Value)
  | [] => [(k, v)]
  | (k', v') :: rest => if equal k k' then (k', v) :: rest else (k', v') :: insertEntry k v rest

/-- Members with a value added unless an equal one is there. -/
def addMember (xs : List Value) (x : Value) : List Value :=
  if memberIn x xs then xs else xs ++ [x]

end Value

end LedMachine
