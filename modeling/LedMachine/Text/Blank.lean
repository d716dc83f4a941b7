import LedMachine.Text.Ranges

/-!
# White space

The white-space characters of Unicode text (space and tab, the line and paragraph breaks, the
information separators U+1C to U+1F, and the spaces of U+2000 to U+200A, U+3000 and their kin).
Lines are trimmed and cut into words by this set. Reading a numeral uses the narrower set of
ASCII blanks.
-/

namespace LedMachine.Text

/-- Closed ranges of the white-space code points. -/
def blankRanges : List (Nat × Nat) :=
  [(0x9, 0xD), (0x1C, 0x20), (0x85, 0x85), (0xA0, 0xA0), (0x1680, 0x1680), (0x2000, 0x200A),
   (0x2028, 0x2029), (0x202F, 0x202F), (0x205F, 0x205F), (0x3000, 0x3000)]

/-- Whether a character is white space. -/
def isBlank (c : Char) : Bool := inRanges blankRanges c.toNat

/-- The ASCII blanks: space, tab, line feed, vertical tab, form feed and carriage return. -/
def isAsciiBlank (c : Char) : Bool :=
  c = ' ' || c = '\t' || c = '\n' || c = '\x0b' || c = '\x0c' || c = '\r'

/-- The text without white space at either end. -/
def trim (cs : List Char) : List Char :=
  ((cs.dropWhile isBlank).reverse.dropWhile isBlank).reverse

/-- The words of a text: its maximal runs of characters that are not white space, in order. -/
def words (cs : List Char) : List (List Char) :=
  (cs.splitOnP isBlank).filter (fun w => !w.isEmpty)

/-- The text without white space at either end. -/
def trimText (s : String) : String := String.ofList (trim s.toList)

/-- The words of a text. -/
def wordsOf (s : String) : List String := (words s.toList).map String.ofList

example : wordsOf "  SET　0 1 " = ["SET", "0", "1"] := by decide
example : trimText "  a b\x1c" = "a b" := by decide

end LedMachine.Text
