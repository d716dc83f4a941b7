import LedMachine.Object.Render
import LedMachine.Text.Utf8

/-!
# Text encodings

Texts become bytes by an encoding named in a saved file: UTF-8, Latin-1 or seven-bit ASCII, under
any of their usual names. A name is compared after lowering its letters and turning each run of
other characters into one underscore. A character an encoding cannot hold fails, naming the run
of such characters, unless the error rule says to drop or replace them; an unknown rule fails only
when there is something to fail on.
-/

namespace LedMachine

/-- An encoding of texts as bytes. -/
inductive Codec where
  | utf8
  | latin1
  | ascii
  deriving DecidableEq, Repr

namespace Codec

/-- The name an encoding gives itself in failures. -/
def name : Codec → String
  | .utf8 => "utf-8"
  | .latin1 => "latin-1"
  | .ascii => "ascii"

/-- The first code point an encoding cannot hold, if any. -/
def limit : Codec → Option Nat
  | .utf8 => none
  | .latin1 => some 256
  | .ascii => some 128

/-- An encoding name in its compared form: letters and digits lowered, dots kept, and each run of
other characters between them turned into one underscore. -/
def normalize (s : String) : String :=
  let step (acc : List Char × Bool) (c : Char) : List Char × Bool :=
    let (out, punct) := acc
    if (c.isAlphanum && c.toNat < 128) || c == '.' then
      let out := if punct && !out.isEmpty then '_' :: out else out
      (c.toLower :: out, false)
    else (out, true)
  String.ofList (s.toList.foldl step ([], false)).1.reverse

/-- The names each encoding goes by, in their compared form. -/
def names : Codec → List String
  | .utf8 => ["utf_8", "u8", "utf", "utf8", "utf8_ucs2", "utf8_ucs4", "cp65001"]
  | .latin1 => ["latin_1", "8859", "cp819", "csisolatin1", "ibm819", "iso8859", "iso8859_1",
      "iso_8859_1", "iso_8859_1_1987", "iso_ir_100", "l1", "latin", "latin1"]
  | .ascii => ["ascii", "646", "ansi_x3.4_1968", "ansi_x3_4_1968", "ansi_x3.4_1986", "cp367",
      "csascii", "ibm367", "iso646_us", "iso_646.irv_1991", "iso_ir_6", "us", "us_ascii"]

/-- The encoding a name stands for. -/
def ofName? (s : String) : Option Codec :=
  let n := normalize s
  let n' := n.map fun c => if c == '.' then '_' else c
  [Codec.utf8, .latin1, .ascii].find? fun c => (c.names.contains n) || (c.names.contains n')

/-- An encoding by name, or the failure for an unknown one. -/
def lookup (s : String) : Except Fault Codec :=
  match ofName? s with
  | some c => .ok c
  | none => .error (.raised .lookupError ("unknown encoding: " ++ s))

/-- The escaped form of a character in a failure message. -/
def escapedChar (n : Nat) : String :=
  if n ≤ 0xFF then "\\x" ++ String.ofList (Text.hexDigits 2 n)
  else if n ≤ 0xFFFF then "\\u" ++ String.ofList (Text.hexDigits 4 n)
  else "\\U" ++ String.ofList (Text.hexDigits 8 n)

/-- The failure for the run of characters from `start` to `stop` that an encoding cannot hold. -/
def encodeError (c : Codec) (cs : List Char) (start stop : Nat) : Fault :=
  let reason := "ordinal not in range(" ++ toString (c.limit.getD 0) ++ ")"
  if stop == start + 1 then
    .raised .unicodeEncodeError ("'" ++ c.name ++ "' codec can't encode character '" ++
      escapedChar (cs.getD start ' ').toNat ++ "' in position " ++ toString start ++ ": " ++ reason)
  else
    .raised .unicodeEncodeError ("'" ++ c.name ++ "' codec can't encode characters in position " ++
      toString start ++ "-" ++ toString (stop - 1) ++ ": " ++ reason)

/-- Encodes the characters from position `pos` on, with at most `fuel` steps. -/
def encodeFrom (c : Codec) (errors : String) (all : List Char) (lim : Nat) :
    Nat → Nat → List Char → List Nat → Except Fault (List Nat)
  | _, _, [], acc => .ok acc.reverse
  | 0, _, _, acc => .ok acc.reverse
  | fuel + 1, pos, ch :: rest, acc =>
    if ch.toNat < lim then encodeFrom c errors all lim fuel (pos + 1) rest (ch.toNat :: acc)
    else
      let run := (ch :: rest).takeWhile (·.toNat ≥ lim) |>.length
      let after := (ch :: rest).drop run
      if errors == "strict" then .error (encodeError c all pos (pos + run))
      else if errors == "ignore" then encodeFrom c errors all lim fuel (pos + run) after acc
      else if errors == "replace" then
        encodeFrom c errors all lim fuel (pos + run) after ((List.replicate run 0x3F).reverse ++ acc)
      else .error (.raised .lookupError ("unknown error handler name " ++ Text.quoted errors))

/-- The bytes of a text in an encoding, under an error rule. -/
def encode (c : Codec) (s : String) (errors : String) : Except Fault (List Nat) :=
  match c.limit with
  | none => .ok ((Utf8.encode s).map UInt8.toNat)
  | some lim => let cs := s.toList; encodeFrom c errors cs lim (cs.length + 1) 0 cs []

/-- The text of bytes in an encoding, under a strict error rule. -/
def decode (c : Codec) (bs : List Nat) : Except Fault String :=
  let raw := bs.map UInt8.ofNat
  match c with
  | .utf8 => match Utf8.decode raw with
    | .ok s => .ok s
    | .error e => .error (.raised .unicodeDecodeError e.message)
  | .ascii => match Utf8.decodeAscii raw with
    | .ok s => .ok s
    | .error e => .error (.raised .unicodeDecodeError e.message)
  | .latin1 => .ok (String.ofList (bs.map Char.ofNat))

end Codec

end LedMachine
