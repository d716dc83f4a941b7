import LedMachine.Text.Hex

/-!
# Decoding bytes as text

Bytes are turned back into text by the UTF-8 rules, or by the seven-bit rules. A decoding that
fails names the codec, the offending bytes by their positions, and the reason: a byte that cannot
start a character, a byte that cannot continue the one begun, or data that ends inside a
character. The positions are those of the first failing character: one byte for a bad start, the
bytes read before the bad continuation, or every byte to the end.
-/

namespace LedMachine

namespace Utf8

/-- Why bytes are no text. -/
structure DecodeError where
  /-- The codec's name. -/
  codec : String
  /-- The offending bytes. -/
  bytes : List UInt8
  /-- The position of the first offending byte. -/
  start : Nat
  /-- The position after the last offending byte. -/
  stop : Nat
  /-- Why the bytes are no text. -/
  reason : String
  deriving DecidableEq, Repr

/-- Two lowercase hexadecimal digits of a byte. -/
def hexByte (b : Nat) : String := String.ofList (Text.hexDigits 2 b)

/-- The message of a decoding failure. -/
def DecodeError.message (e : DecodeError) : String :=
  if e.stop == e.start + 1 then
    "'" ++ e.codec ++ "' codec can't decode byte 0x" ++ hexByte (e.bytes.getD e.start 0).toNat ++
      " in position " ++ toString e.start ++ ": " ++ e.reason
  else
    "'" ++ e.codec ++ "' codec can't decode bytes in position " ++ toString e.start ++ "-" ++
      toString (e.stop - 1) ++ ": " ++ e.reason

/-- Whether a byte continues a character. -/
def continues (b : UInt8) : Bool := b &&& 0xC0 == 0x80

/-- The payload bits of a continuation byte. -/
def low (b : UInt8) : Nat := (b &&& 0x3F).toNat

/-- How the first character of `bs` reads: the code point and its length, or the failing length
and reason. -/
def first : List UInt8 → Except (Nat × String) (Nat × Nat)
  | [] => .error (0, "unexpected end of data")
  | c :: rest =>
    let n := c.toNat
    if n < 0x80 then .ok (n, 1)
    else if n < 0xC2 then .error (1, "invalid start byte")
    else if n < 0xE0 then
      match rest with
      | [] => .error (rest.length + 1, "unexpected end of data")
      | c2 :: _ =>
        if !continues c2 then .error (1, "invalid continuation byte")
        else .ok ((n - 0xC0) * 0x40 + low c2, 2)
    else if n < 0xF0 then
      let badSecond (c2 : UInt8) : Bool :=
        !continues c2 || (if c2.toNat < 0xA0 then n == 0xE0 else n == 0xED)
      match rest with
      | [] => .error (1, "unexpected end of data")
      | [c2] => if badSecond c2 then .error (1, "invalid continuation byte")
        else .error (2, "unexpected end of data")
      | c2 :: c3 :: _ =>
        if badSecond c2 then .error (1, "invalid continuation byte")
        else if !continues c3 then .error (2, "invalid continuation byte")
        else .ok ((n - 0xE0) * 0x1000 + low c2 * 0x40 + low c3, 3)
    else if n < 0xF5 then
      let badSecond (c2 : UInt8) : Bool :=
        !continues c2 || (if c2.toNat < 0x90 then n == 0xF0 else n == 0xF4)
      match rest with
      | [] => .error (1, "unexpected end of data")
      | [c2] => if badSecond c2 then .error (1, "invalid continuation byte")
        else .error (2, "unexpected end of data")
      | [c2, c3] =>
        if badSecond c2 then .error (1, "invalid continuation byte")
        else if !continues c3 then .error (2, "invalid continuation byte")
        else .error (3, "unexpected end of data")
      | c2 :: c3 :: c4 :: _ =>
        if badSecond c2 then .error (1, "invalid continuation byte")
        else if !continues c3 then .error (2, "invalid continuation byte")
        else if !continues c4 then .error (3, "invalid continuation byte")
        else .ok ((n - 0xF0) * 0x40000 + low c2 * 0x1000 + low c3 * 0x40 + low c4, 4)
    else .error (1, "invalid start byte")

/-- Decodes the bytes from position `pos` on, with at most `fuel` characters. -/
def decodeFrom (all : List UInt8) : Nat → Nat → List UInt8 → List Char → Except DecodeError String
  | _, _, [], acc => .ok (String.ofList acc.reverse)
  | 0, _, _, acc => .ok (String.ofList acc.reverse)
  | fuel + 1, pos, bs, acc =>
    match first bs with
    | .ok (cp, len) => decodeFrom all fuel (pos + len) (bs.drop len) (Char.ofNat cp :: acc)
    | .error (len, reason) =>
      .error { codec := "utf-8", bytes := all, start := pos, stop := pos + len, reason := reason }

/-- The text that bytes encode by the UTF-8 rules. -/
def decode (bs : List UInt8) : Except DecodeError String := decodeFrom bs bs.length 0 bs []

/-- Decodes like `decodeFrom`, but also reads the three-byte forms of the halves of a pair, which
strict decoding refuses; a text here cannot hold them, so each stands as a replacement character. -/
def decodeHalvesFrom (all : List UInt8) :
    Nat → Nat → List UInt8 → List Char → Except DecodeError String
  | _, _, [], acc => .ok (String.ofList acc.reverse)
  | 0, _, _, acc => .ok (String.ofList acc.reverse)
  | fuel + 1, pos, bs, acc =>
    match first bs with
    | .ok (cp, len) => decodeHalvesFrom all fuel (pos + len) (bs.drop len) (Char.ofNat cp :: acc)
    | .error (len, reason) =>
      match bs with
      | 0xED :: b2 :: b3 :: rest =>
        if 0xA0 ≤ b2 && continues b2 && continues b3 then
          decodeHalvesFrom all fuel (pos + 3) rest ('\uFFFD' :: acc)
        else .error { codec := "utf-8", bytes := all, start := pos, stop := pos + len, reason := reason }
      | _ => .error { codec := "utf-8", bytes := all, start := pos, stop := pos + len, reason := reason }

/-- The text that bytes encode by the UTF-8 rules, halves of pairs allowed. -/
def decodeHalves (bs : List UInt8) : Except DecodeError String :=
  decodeHalvesFrom bs bs.length 0 bs []

/-- The text that bytes encode by the seven-bit rules. -/
def decodeAscii (bs : List UInt8) : Except DecodeError String :=
  match bs.findIdx? (·.toNat ≥ 0x80) with
  | some i =>
    .error { codec := "ascii", bytes := bs, start := i, stop := i + 1,
             reason := "ordinal not in range(128)" }
  | none => .ok (String.ofList (bs.map fun b => Char.ofNat b.toNat))

/-- The UTF-8 bytes of a text. -/
def encode (s : String) : List UInt8 := s.toUTF8.data.toList

end Utf8

end LedMachine
