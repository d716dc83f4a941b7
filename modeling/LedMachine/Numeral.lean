import LedMachine.Text.Blank
import LedMachine.Text.DecimalDigit
import LedMachine.Text.Quoted

/-!
# Decimal numerals

How a text reads as a whole number. After ASCII blanks comes an optional sign, then decimal
digits, where a single underscore may stand between two digits, then ASCII blanks to the end.
Decimal digits of every script count, and any other white space counts as a blank. A numeral
of more than 4300 digits is refused for its length, which is found before anything that follows
the digits is looked at.
-/

namespace LedMachine

/-- Why a text does not read as a whole number. -/
inductive NumeralError where
  /-- The text is no numeral. -/
  | malformed (text : String)
  /-- The numeral has more digits than are read. -/
  | tooLong (digits : Nat)
  deriving DecidableEq, Repr

/-- The most digits a numeral may have. -/
def digitLimit : Nat := 4300

/-- The text that reports the error. A malformed text is shown quoted, cut after 200 characters. -/
def NumeralError.message : NumeralError → String
  | .malformed text =>
    "invalid literal for int() with base 10: " ++ String.ofList ((Text.quoteChars text.toList).take 200)
  | .tooLong n =>
    "Exceeds the limit (4300 digits) for integer string conversion: value has " ++ toString n ++
      " digits; use sys.set_int_max_str_digits() to increase the limit"

/-- How a character stands in a numeral: an ASCII character as itself, other white space as a
space, a decimal digit of another script as the ASCII digit of its value, and anything else as a
character that no numeral holds. -/
def numeralChar (c : Char) : Char :=
  if c.toNat < 0x7F then c
  else if Text.isBlank c then ' '
  else match Text.decimalValue? c with
    | some d => Char.ofNat (48 + d)
    | none => '?'

/-- The value of an ASCII digit. -/
def digitValue (c : Char) : Nat := c.toNat - 48

/-- Reads digits, with single underscores between two digits, from the front of a text that does
not start with an underscore. Gives the value (after `v`), the number of digits (after `n`) and
what follows; `none` when an underscore is not followed by a digit. -/
def digitRun : List Char → Nat → Nat → Option (Nat × Nat × List Char)
  | [], v, n => some (v, n, [])
  | '_' :: [], _, _ => none
  | '_' :: c :: rest, v, n =>
    if c.isDigit then digitRun rest (10 * v + digitValue c) (n + 1) else none
  | c :: rest, v, n =>
    if c.isDigit then digitRun rest (10 * v + digitValue c) (n + 1) else some (v, n, c :: rest)

/-- Splits a leading sign off: whether it is a minus, and the rest. -/
def splitSign : List Char → Bool × List Char
  | '-' :: rest => (true, rest)
  | '+' :: rest => (false, rest)
  | cs => (false, cs)

/-- Reads a text as a whole number in base ten. -/
def readInt (s : String) : Except NumeralError Int :=
  let (negative, body) := splitSign ((s.toList.map numeralChar).dropWhile Text.isAsciiBlank)
  match body with
  | '_' :: _ => .error (.malformed s)
  | _ =>
    match digitRun body 0 0 with
    | none => .error (.malformed s)
    | some (v, n, rest) =>
      if digitLimit < n then .error (.tooLong n)
      else if n = 0 ∨ !rest.all Text.isAsciiBlank then .error (.malformed s)
      else .ok (if negative then -(v : Int) else v)

example : readInt " 0_7 " = .ok 7 := by rfl
example : readInt "-12" = .ok (-12) := by rfl
example : readInt "+5" = .ok 5 := by rfl
example : readInt "１２" = .ok 12 := by rfl
example : readInt "1__0" = .error (.malformed "1__0") := by rfl
example : readInt "_1" = .error (.malformed "_1") := by rfl
example : readInt "1_" = .error (.malformed "1_") := by rfl
example : readInt "" = .error (.malformed "") := by rfl
example : readInt "0X10" = .error (.malformed "0X10") := by rfl
example : (NumeralError.malformed "abc").message = "invalid literal for int() with base 10: 'abc'" := by decide

end LedMachine
