import LedMachine.Object.Render
import LedMachine.Text.Utf8

/-!
# Numbers written as bytes

Three readers of numbers from bytes, as the saved-file format reads them.

* The machine-word reader takes blanks, a sign, and digits in base ten, or base eight after a
  leading zero, or base sixteen after `0x`; it stops at the first byte that is no digit and tells
  where, and whether the number left the machine word.
* The integer reader takes blanks, a sign, a base prefix matching the base (or choosing it when the
  base is zero), digits with single underscores between them, and trailing blanks, and nothing
  else; when it fails, its message quotes the start of the bytes.
* The floating-point reader takes a sign, digits with at most one point, and an exponent, or the
  words for infinity and not-a-number; it stops at the first byte that does not fit and tells
  where.

A run of bytes ends at its first zero byte, as a machine string does.
-/

namespace LedMachine

namespace Numbers

/-- The bytes before the first zero byte. -/
def untilZero (bs : List UInt8) : List UInt8 := bs.takeWhile (· != 0)

/-- Whether a byte is a blank: space, tab, line feed, vertical tab, form feed or return. -/
def isBlank (b : UInt8) : Bool := b == 0x20 || (0x09 ≤ b && b ≤ 0x0D)

/-- The value of a digit byte in bases up to 36, or 37 for a byte that is no digit. -/
def digitValue (b : UInt8) : Nat :=
  let n := b.toNat
  if 0x30 ≤ n && n ≤ 0x39 then n - 0x30
  else if 0x61 ≤ n && n ≤ 0x7A then n - 0x61 + 10
  else if 0x41 ≤ n && n ≤ 0x5A then n - 0x41 + 10
  else 37

/-- The value of leading digits in a base and how many bytes they take. -/
def leadingDigits (base : Nat) : List UInt8 → Nat → Nat → Nat × Nat
  | [], acc, n => (acc, n)
  | b :: rest, acc, n =>
    if digitValue b < base then leadingDigits base rest (acc * base + digitValue b) (n + 1)
    else (acc, n)

/-- Whether a value fits a signed machine word. -/
def fitsWord (n : Int) : Bool := decide (-(Nat.pow 2 63 : Int) ≤ n ∧ n < (Nat.pow 2 63 : Int))

/-- The machine-word reader: the value read, the position where reading stopped, and whether the
value left the machine word. With no digits the position is the start, or the `x` of a bare
`0x`. -/
def machineWord (s : List UInt8) : Int × Nat × Bool :=
  let blanks := (s.takeWhile isBlank).length
  let rest := s.drop blanks
  let (neg, signLen, rest) := match rest with
    | 0x2D :: r => (true, 1, r)
    | 0x2B :: r => (false, 1, r)
    | r => (false, 0, r)
  let (base, prefixLen, body) := match rest with
    | 0x30 :: x :: r => if x == 0x78 || x == 0x58 then (16, 2, r) else (8, 0, rest)
    | 0x30 :: r => (8, 0, 0x30 :: r)
    | r => (10, 0, r)
  let (value, count) := leadingDigits base body 0 0
  if count == 0 then
    if prefixLen == 2 then (0, blanks + signLen + 1, false) else (0, 0, false)
  else
    let v : Int := if neg then -(value : Int) else value
    (v, blanks + signLen + prefixLen + count, !fitsWord v)

/-- The printed form of the start of some bytes for a failure message: at most 200 bytes read as
UTF-8, quoted, cut to 200 characters. Bytes cut inside a character fail to read. -/
def quotedStart (s : List UInt8) : Except Fault String :=
  match Utf8.decode (s.take 200) with
  | .ok t => .ok (String.ofList ((Text.quoted t).toList.take 200))
  | .error e => .error (.raised .unicodeDecodeError e.message)

/-- Digits with single underscores between them, from the front of the bytes: the digits' value,
their count, and the bytes after them; `none` for a doubled or trailing underscore. -/
def underscoredDigits (base : Nat) : List UInt8 → Nat → Nat → Bool → Option (Nat × Nat × List UInt8)
  | [], acc, n, lastUnderscore => if lastUnderscore then none else some (acc, n, [])
  | b :: rest, acc, n, lastUnderscore =>
    if b == 0x5F then
      if lastUnderscore then none else underscoredDigits base rest acc n true
    else if digitValue b < base then underscoredDigits base rest (acc * base + digitValue b) (n + 1) false
    else if lastUnderscore then none
    else some (acc, n, b :: rest)

/-- The integer reader, in base 0 (chosen by the prefix) or 2 to 36. -/
def integer (bytes : List UInt8) (base : Nat) : Except Fault Int :=
  let s := untilZero bytes
  let fail (shownBase : Nat) : Except Fault Int := do
    let q ← quotedStart s
    throw (.raised .valueError
      ("invalid literal for int() with base " ++ toString shownBase ++ ": " ++ q))
  let rest := s.dropWhile isBlank
  let (neg, rest) := match rest with
    | 0x2D :: r => (true, r)
    | 0x2B :: r => (false, r)
    | r => (false, r)
  let lower (b : UInt8) : UInt8 := if 0x41 ≤ b && b ≤ 0x5A then b + 0x20 else b
  let (base, oldOctal) : Nat × Bool :=
    if base != 0 then (base, false)
    else match rest with
      | 0x30 :: x :: _ =>
        if lower x == 0x78 then (16, false) else if lower x == 0x6F then (8, false)
        else if lower x == 0x62 then (2, false) else (10, true)
      | 0x30 :: _ => (10, true)
      | _ => (10, false)
  let rest := match rest with
    | 0x30 :: x :: r =>
      if (base == 16 && lower x == 0x78) || (base == 8 && lower x == 0x6F) ||
         (base == 2 && lower x == 0x62) then
        match r with | 0x5F :: r' => r' | r' => r'
      else rest
    | _ => rest
  let shown := if oldOctal then 0 else base
  match rest with
  | 0x5F :: _ => fail base
  | _ =>
    match underscoredDigits base rest 0 0 false with
    | none => fail base
    | some (value, count, after) =>
      let powerOfTwo := base == 2 || base == 4 || base == 8 || base == 16 || base == 32
      if !powerOfTwo && digitLimit < count then
        throw (.raised .valueError ("Exceeds the limit (" ++ toString digitLimit ++
          " digits) for integer string conversion: value has " ++ toString count ++
          " digits; use sys.set_int_max_str_digits() to increase the limit"))
      else if oldOctal && value != 0 then fail 0
      else if count == 0 then fail shown
      else if !(after.all isBlank) then fail shown
      else pure (if neg then -(value : Int) else value)

/-- Whether bytes start with a word, in any case. -/
def startsWithWord (s : List UInt8) (w : String) : Bool :=
  let ws := w.toList.map fun c => UInt8.ofNat c.toNat
  ws.length ≤ s.length &&
    (s.zip ws).all fun (b, c) => (if 0x41 ≤ b && b ≤ 0x5A then b + 0x20 else b) == c

/-- The floating-point reader: the bits read, where reading stopped, and whether the magnitude
overflowed; `none` when nothing could be read. -/
def floating (s : List UInt8) : Option (UInt64 × Nat × Bool) :=
  let (neg, signLen, rest) := match s with
    | 0x2D :: r => (true, 1, r)
    | 0x2B :: r => (false, 1, r)
    | r => (false, 0, r)
  let isDigit (b : UInt8) : Bool := 0x30 ≤ b && b ≤ 0x39
  let intDigits := rest.takeWhile isDigit
  let afterInt := rest.drop intDigits.length
  let (fracDigits, afterFrac, pointLen) := match afterInt with
    | 0x2E :: r => let fd := r.takeWhile isDigit; (fd, r.drop fd.length, 1)
    | r => ([], r, 0)
  if intDigits.isEmpty && fracDigits.isEmpty then
    let sign : UInt64 := if neg then Binary64.signBit else 0
    if startsWithWord rest "infinity" then some (Binary64.infinity ||| sign, signLen + 8, false)
    else if startsWithWord rest "inf" then some (Binary64.infinity ||| sign, signLen + 3, false)
    else if startsWithWord rest "nan" then some (Binary64.notANumber ||| sign, signLen + 3, false)
    else none
  else
    let (expValue, expLen) : Int × Nat := match afterFrac with
      | e :: r =>
        if e == 0x65 || e == 0x45 then
          let (eneg, esl, r) := match r with
            | 0x2D :: r' => (true, 1, r')
            | 0x2B :: r' => (false, 1, r')
            | r' => (false, 0, r')
          let eds := r.takeWhile isDigit
          if eds.isEmpty then (0, 0)
          else
            let v := (leadingDigits 10 eds 0 0).1
            ((if eneg then -(v : Int) else v), 1 + esl + eds.length)
        else (0, 0)
      | [] => (0, 0)
    let all := intDigits ++ fracDigits
    let m := (leadingDigits 10 all 0 0).1
    let digits := (all.dropWhile (· == 0x30)).length
    let (bits, overflowed) := Binary64.ofDecimal neg m digits (expValue - fracDigits.length)
    some (bits, signLen + intDigits.length + pointLen + fracDigits.length + expLen, overflowed)

/-- The text of bytes as a machine string prints them: at most 200 bytes read as UTF-8, bad
bytes replaced. -/
def shownStart (s : List UInt8) : String :=
  let rec go : Nat → List UInt8 → List Char → List Char
    | 0, _, acc => acc.reverse
    | _, [], acc => acc.reverse
    | fuel + 1, bs, acc =>
      match Utf8.first bs with
      | .ok (cp, len) => go fuel (bs.drop len) (Char.ofNat cp :: acc)
      | .error (len, _) => go fuel (bs.drop (max len 1)) ('�' :: acc)
  let t := untilZero s |>.take 200
  String.ofList (go t.length t [])

end Numbers

end LedMachine
