import LedMachine.Object.Numbers

/-!
# Escapes in saved texts

A saved file writes texts with backslash escapes, in two styles.

* Quoted byte strings take the escapes of a byte literal: a backslash before a quote, a backslash,
  one of the letters `a b f n r t v`, up to three octal digits, or `x` and two hexadecimal digits
  stands for one byte; a backslash before a line end stands for nothing; any other backslash
  stays as it is. A backslash at the very end, or `x` without two hexadecimal digits, fails.
* Raw texts take every byte as the character of that number, except that a backslash before `u`
  with four hexadecimal digits, or before `U` with eight, stands for the character of that
  number. A short escape fails, as does a number beyond the last character.
-/

namespace LedMachine

namespace Snapshot

/-- Whether a byte is an octal digit. -/
def isOctal (b : UInt8) : Bool := 0x30 ≤ b && b ≤ 0x37

/-- The value of a hexadecimal digit byte, if it is one. -/
def hexValue (b : UInt8) : Option Nat :=
  let v := Numbers.digitValue b
  if v < 16 then some v else none

/-- Decodes byte-literal escapes from `pos` on, with at most `fuel` steps. -/
def unescapeFrom : Nat → Nat → List UInt8 → List UInt8 → Except Fault (List UInt8)
  | _, _, [], acc => .ok acc.reverse
  | 0, _, _, acc => .ok acc.reverse
  | fuel + 1, pos, b :: rest, acc =>
    if b != 0x5C then unescapeFrom fuel (pos + 1) rest (b :: acc)
    else match rest with
      | [] => .error (.raised .valueError "Trailing \\ in string")
      | c :: rest' =>
        let simple (out : UInt8) := unescapeFrom fuel (pos + 2) rest' (out :: acc)
        match c.toNat with
        | 0x0A => unescapeFrom fuel (pos + 2) rest' acc
        | 0x5C => simple 0x5C
        | 0x27 => simple 0x27
        | 0x22 => simple 0x22
        | 0x62 => simple 0x08
        | 0x66 => simple 0x0C
        | 0x74 => simple 0x09
        | 0x6E => simple 0x0A
        | 0x72 => simple 0x0D
        | 0x76 => simple 0x0B
        | 0x61 => simple 0x07
        | 0x78 =>
          match rest' with
          | h1 :: h2 :: rest'' =>
            match hexValue h1, hexValue h2 with
            | some a, some d => unescapeFrom fuel (pos + 4) rest'' (UInt8.ofNat (a * 16 + d) :: acc)
            | _, _ => .error (.raised .valueError ("invalid \\x escape at position " ++ toString pos))
          | _ => .error (.raised .valueError ("invalid \\x escape at position " ++ toString pos))
        | n =>
          if isOctal c then
            let more := (rest'.take 2).takeWhile isOctal
            let value := more.foldl (fun v d => v * 8 + (d.toNat - 0x30)) (n - 0x30)
            unescapeFrom fuel (pos + 2 + more.length) (rest'.drop more.length)
              (UInt8.ofNat value :: acc)
          else unescapeFrom fuel (pos + 1) rest (0x5C :: acc)

/-- The bytes that byte-literal escapes stand for. -/
def unescapeBytes (bs : List UInt8) : Except Fault (List UInt8) :=
  unescapeFrom (bs.length + 1) 0 bs []

/-- The character for a code point, standing in a replacement character for the halves of a
pair, which texts here cannot hold. -/
def codeChar (n : Nat) : Char :=
  if 0xD800 ≤ n && n < 0xE000 then '�' else Char.ofNat n

/-- The failure of a raw escape from `start` to before `stop`. -/
def rawError (start stop : Nat) (reason : String) : Fault :=
  .raised .unicodeDecodeError ("'rawunicodeescape' codec can't decode bytes in position " ++
    toString start ++ "-" ++ toString (stop - 1) ++ ": " ++ reason)

/-- The value of up to `count` hexadecimal digits, and how many were read before a byte that is
no digit or the end. -/
def hexRun : Nat → List UInt8 → Nat → Nat → Nat × Nat
  | 0, _, v, n => (v, n)
  | _, [], v, n => (v, n)
  | count + 1, b :: rest, v, n =>
    match hexValue b with
    | some d => hexRun count rest (v * 16 + d) (n + 1)
    | none => (v, n)

/-- Decodes raw escapes from `pos` on, with at most `fuel` steps. -/
def rawFrom : Nat → Nat → List UInt8 → List Char → Except Fault String
  | _, _, [], acc => .ok (String.ofList acc.reverse)
  | 0, _, _, acc => .ok (String.ofList acc.reverse)
  | fuel + 1, pos, b :: rest, acc =>
    if b != 0x5C then rawFrom fuel (pos + 1) rest (Char.ofNat b.toNat :: acc)
    else match rest with
      | [] => .ok (String.ofList ('\\' :: acc).reverse)
      | c :: rest' =>
        if c == 0x75 || c == 0x55 then
          let count := if c == 0x75 then 4 else 8
          let reason := if c == 0x75 then "truncated \\uXXXX escape" else "truncated \\UXXXXXXXX escape"
          let (v, n) := hexRun count rest' 0 0
          if n < count then .error (rawError pos (pos + 2 + n) reason)
          else if 0x10FFFF < v then .error (rawError pos (pos + 2 + n) "\\Uxxxxxxxx out of range")
          else rawFrom fuel (pos + 2 + n) (rest'.drop n) (codeChar v :: acc)
        else rawFrom fuel (pos + 2) rest' (Char.ofNat c.toNat :: '\\' :: acc)

/-- The text that raw escapes stand for. -/
def unescapeRaw (bs : List UInt8) : Except Fault String := rawFrom (bs.length + 1) 0 bs []

end Snapshot

end LedMachine
