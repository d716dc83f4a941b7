import LedMachine.Assembler.Source

/-!
# The byte counter

The editor shows how many bytes the program in it takes, against the memory size. Counting reads
the same lines the assembler reads, with a table of commands of its own: `EP` takes no bytes,
`SET` and `CLEAR` take two bytes and two for each piece of their operand text that is two words,
and four sets of commands take three, two, one and four bytes. Numerals are not read. A command
the table does not list, a piece that is not two words, and a pixel command without pairs make the
program malformed. That the table sizes every instruction as the assembler does is proved
alongside the assembler.

The counter warns when the program is malformed, when it does not fit, and (without saying so)
when it takes more than four fifths of the memory. A size that is no number cannot be compared,
which the counter reports on its own.
-/

namespace LedMachine

/-- What counting finds in a program text. -/
structure Tally where
  /-- The bytes the instructions take. -/
  bytes : Nat := 0
  /-- Whether some line is malformed. -/
  malformed : Bool := false
  deriving DecidableEq, Repr

/-- The commands the counter sizes by their coordinate pairs. -/
def pairCommands : List String := ["SET", "CLEAR"]

/-- The counter's table of the other commands, in sets by the bytes each command takes. -/
def fixedCommands : List (List String × Nat) :=
  [(["STORE", "JUMPIF", "SCRATCH_STORE", "SCRATCH_LOAD", "SCRATCH_COPY", "SCRATCH_JUMPIF", "NOT",
      "SHL", "SHR"], 3),
   (["WAIT", "LOAD", "JUMP"], 2),
   (["LOOP", "SETALL", "SETNONE"], 1),
   (["ADD", "SCRATCH_ADD", "AND", "OR", "XOR", "SUB"], 4)]

/-- The bytes the counter gives a command: those of the first set of its table that lists it. -/
def fixedBytes? (cmd : String) : Option Nat :=
  (fixedCommands.find? fun row => row.1.contains cmd).map Prod.snd

/-- The bytes that the words of one line take, and whether the line is malformed. -/
def lineTally (ws : List String) : Nat × Bool :=
  match ws with
  | [] => (0, false)
  | cmd :: rest =>
    if cmd = "EP" then (0, false)
    else if pairCommands.contains cmd then
      let pieces := Source.pairPieces rest
      let pairs := pieces.filter fun p => (Text.wordsOf p).length = 2
      if pairs.isEmpty then (0, true)
      else (1 + 1 + 2 * pairs.length, pairs.length != pieces.length)
    else
      match fixedBytes? cmd with
      | some n => (n, false)
      | none => (0, true)

/-- Counts the bytes of a program text. -/
def tally (text : String) : Tally :=
  (Source.lines text).foldl (fun t raw =>
    match Source.words? raw with
    | none => t
    | some ws =>
      let (n, bad) := lineTally ws
      { bytes := t.bytes + n, malformed := t.malformed || bad }) {}

/-- The memory size as the window knows it: a number, or a value of another type. -/
inductive SizeValue where
  | number (n : Int)
  | text (s : String)
  | nothing
  deriving DecidableEq, Repr

/-- How a size is written. -/
def SizeValue.render : SizeValue → String
  | .number n => toString n
  | .text s => s
  | .nothing => "None"

/-- Sizes from here on have no floating-point value, so four fifths of them cannot be taken. -/
def floatLimit : Int := Nat.pow 2 1024 - Nat.pow 2 970

/-- The byte counter's text, and whether the program fits with room to spare. -/
def Tally.label (t : Tally) (size : SizeValue) : String × Bool :=
  let used := toString t.bytes ++ "/" ++ size.render ++ " BYTES USED"
  if t.malformed then (used ++ " - INVALID SYNTAX", false)
  else
    match size with
    | .number n =>
      if n < t.bytes then (used ++ " - OVER CAPACITY!", false)
      else if floatLimit ≤ n then ("SYNTAX ERROR IN PROGRAM", false)
      else (used, decide (5 * (t.bytes : Int) ≤ 4 * n))
    | _ => ("SYNTAX ERROR IN PROGRAM", false)

end LedMachine
