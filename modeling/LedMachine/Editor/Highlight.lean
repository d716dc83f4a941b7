import LedMachine.Opcode
import LedMachine.Text.DecimalDigit
import LedMachine.Text.WordChar

/-!
# Highlighting

The editor marks numbers, comments and keywords in a text. A number is a run of decimal digits
with no word character on either side, a comment runs from `#` to the end of its line, and a
keyword is an instruction mnemonic or `EP` with no word character on either side. Word
characters are letters, digits and numerals of every script and the underscore; offsets count
characters.

Since numbers and keywords are made of word characters and must have none beside them, each is
a whole maximal run of word characters: the runs are found once and then sorted out.
-/

namespace LedMachine

/-- What a marked stretch of text is. -/
inductive SpanKind where
  | number
  | comment
  | keyword
  deriving DecidableEq, Repr

/-- A marked stretch of text: where it starts, how many characters it has, and what it is. -/
structure Span where
  /-- The offset of the first character. -/
  start : Nat
  /-- The number of characters. -/
  length : Nat
  /-- What the stretch is. -/
  kind : SpanKind
  deriving DecidableEq, Repr

namespace Highlight

/-- The keywords, in the order they are marked. -/
def keywords : List String := "EP" :: Opcode.all.map Opcode.mnemonic

/-- The maximal runs of word characters from offset `pos` on, each with its offset; `cur` is the
run under way, its characters reversed. -/
def runsFrom : List Char → Nat → Option (Nat × List Char) → List (Nat × List Char)
  | [], _, none => []
  | [], _, some (s, r) => [(s, r.reverse)]
  | c :: rest, pos, cur =>
    if Text.isWordChar c then
      runsFrom rest (pos + 1) (some (match cur with
        | some (s, r) => (s, c :: r)
        | none => (pos, [c])))
    else
      (match cur with
        | some (s, r) => [(s, r.reverse)]
        | none => []) ++ runsFrom rest (pos + 1) none

/-- The maximal runs of word characters of a text, each with its offset. -/
def wordRuns (cs : List Char) : List (Nat × List Char) := runsFrom cs 0 none

/-- The comments from offset `pos` on; `open` is the comment under way, with its start and
length. -/
def commentsFrom : List Char → Nat → Option (Nat × Nat) → List Span
  | [], _, none => []
  | [], _, some (s, n) => [⟨s, n, .comment⟩]
  | c :: rest, pos, some (s, n) =>
    if c = '\n' then ⟨s, n, .comment⟩ :: commentsFrom rest (pos + 1) none
    else commentsFrom rest (pos + 1) (some (s, n + 1))
  | c :: rest, pos, none =>
    if c = '#' then commentsFrom rest (pos + 1) (some (pos, 1))
    else commentsFrom rest (pos + 1) none

/-- The marked stretches of a text: numbers, then comments, then each keyword in turn. -/
def spans (text : String) : List Span :=
  let cs := text.toList
  let runs := wordRuns cs
  let numbers := runs.filterMap fun (s, r) =>
    if r.all Text.isDecimalDigit then some ⟨s, r.length, .number⟩ else none
  let words := keywords.flatMap fun kw =>
    runs.filterMap fun (s, r) => if r = kw.toList then some ⟨s, r.length, .keyword⟩ else none
  numbers ++ commentsFrom cs 0 none ++ words

example : wordRuns "a1 _b".toList = [(0, ['a', '1']), (3, ['_', 'b'])] := by decide

end Highlight

end LedMachine
