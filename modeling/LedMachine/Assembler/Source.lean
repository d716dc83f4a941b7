import LedMachine.Numeral
import LedMachine.Text.Upper
import LedMachine.Machine.Alarm

/-!
# Source lines

A source line is trimmed and put in upper case. A line that is then empty, or starts with `#`,
holds nothing; any other line is cut into words at white space, and its first word is the
command. The pixel instructions take their coordinates as pairs: the words after the command are
joined by single spaces and cut at commas, each piece is trimmed, empty pieces are dropped, and
every other piece must be two numerals.
-/

namespace LedMachine

namespace Source

/-- The lines of a text: the pieces between line feeds. -/
def lines (text : String) : List String := text.splitOn "\n"

/-- A line as the assembler reads it: trimmed, in upper case. -/
def normalize (raw : String) : String := Text.upper (Text.trimText raw)

/-- The words of a source line, or none when the line holds nothing. -/
def words? (raw : String) : Option (List String) :=
  let line := normalize raw
  if line.isEmpty || line.startsWith "#" then none else some (Text.wordsOf line)

/-- The pieces of the operand text of a pixel instruction: the operand words joined by spaces,
cut at commas, trimmed, without empty pieces. -/
def pairPieces (operands : List String) : List String :=
  (((" ".intercalate operands).toList.splitOnP (· == ',')).map fun cs =>
    Text.trimText (String.ofList cs)) |>.filter (fun p => !p.isEmpty)

/-- A piece read as a coordinate pair: exactly two words, both numerals. -/
def readPair (piece : String) : Option (Int × Int) :=
  match Text.wordsOf piece with
  | [x, y] =>
    match readInt x, readInt y with
    | .ok a, .ok b => some (a, b)
    | _, _ => none
  | _ => none

/-- The coordinate pairs of a pixel instruction, or the first piece that is no pair. -/
def readPairs (operands : List String) : Except LineError (List (Int × Int)) :=
  (pairPieces operands).mapM fun piece =>
    match readPair piece with
    | some p => .ok p
    | none => .error (.badPair piece)

example : words? "  # note" = none := by cbv

end Source

end LedMachine
