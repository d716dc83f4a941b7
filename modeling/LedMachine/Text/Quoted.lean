import LedMachine.Text.Hex
import LedMachine.Text.Printable

/-!
# Quoted text

The quoted form of a text, as messages show a text: between single quotes, or between double
quotes when the text holds a single quote and no double quote. Inside, the backslash and the
chosen quote are escaped, tab, line feed and carriage return take their letter escapes, other
control characters and characters that are not printable take hexadecimal escapes of two, four or
eight digits, and every other character stands for itself.
-/

namespace LedMachine.Text

/-- The single quote. -/
def singleQuote : Char := Char.ofNat 0x27

/-- The quote a text is written between: double when it holds a single quote and no double one. -/
def quoteFor (cs : List Char) : Char :=
  if cs.contains singleQuote && !cs.contains '"' then '"' else singleQuote

/-- The written form of one character between quotes `q`. -/
def escapeChar (q c : Char) : List Char :=
  if c = q ∨ c = '\\' then ['\\', c]
  else if c = '\t' then ['\\', 't']
  else if c = '\n' then ['\\', 'n']
  else if c = '\r' then ['\\', 'r']
  else if c.toNat < 0x20 ∨ c.toNat = 0x7F then '\\' :: 'x' :: hexDigits 2 c.toNat
  else if c.toNat < 0x7F ∨ isPrintable c then [c]
  else if c.toNat ≤ 0xFF then '\\' :: 'x' :: hexDigits 2 c.toNat
  else if c.toNat ≤ 0xFFFF then '\\' :: 'u' :: hexDigits 4 c.toNat
  else '\\' :: 'U' :: hexDigits 8 c.toNat

/-- The quoted form of a text. -/
def quoteChars (cs : List Char) : List Char :=
  let q := quoteFor cs
  q :: cs.flatMap (escapeChar q) ++ [q]

/-- The quoted form of a text. -/
def quoted (s : String) : String := String.ofList (quoteChars s.toList)

example : quoted "abc" = "'abc'" := by decide
example : quoted "it's" = "\"it's\"" := by decide
example : quoted "a\tb\\" = "'a\\tb\\\\'" := by decide
example : quoted "\x00\x7f " = "'\\x00\\x7f\\xa0'" := by decide
example : quoted "é​" = "'é\\u200b'" := by decide +kernel

end LedMachine.Text
