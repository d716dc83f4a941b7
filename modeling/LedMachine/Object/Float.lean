import LedMachine.Text.Hex

/-!
# Floating-point numbers by their bits

A floating-point number is kept as the 64 bits of its binary form: a sign bit, eleven exponent
bits and fifty-two fraction bits. This module reads the exact value of such bits, rounds an exact
rational to the nearest such number (ties to even, as the hardware does), and prints a number
the way it is printed back: the shortest decimal that reads back to the same bits.

Rounding works on whole numbers only. A decimal `m · 10^e` is the fraction `N / D`; its binary
exponent `k` is fixed by comparing `N` with `D · 2^k`, and the fifty-three bits of the result are
the quotient of `N · 2^(52-k)` by `D`, rounded on the remainder.
-/

namespace LedMachine

namespace Binary64

/-- The bits of positive infinity. -/
def infinity : UInt64 := 0x7FF0000000000000

/-- The bits of the quiet not-a-number. -/
def notANumber : UInt64 := 0x7FF8000000000000

/-- The sign bit. -/
def signBit : UInt64 := 0x8000000000000000

/-- Whether the sign bit is set. -/
def negative (b : UInt64) : Bool := b &&& signBit != 0

/-- The exponent field. -/
def exponentField (b : UInt64) : Nat := ((b >>> 52) &&& 0x7FF).toNat

/-- The fraction field. -/
def fractionField (b : UInt64) : Nat := (b &&& 0xFFFFFFFFFFFFF).toNat

/-- Whether the bits are a not-a-number. -/
def isNaN (b : UInt64) : Bool := exponentField b == 0x7FF && fractionField b != 0

/-- Whether the bits are an infinity. -/
def isInfinite (b : UInt64) : Bool := exponentField b == 0x7FF && fractionField b == 0

/-- Whether the bits are a zero of either sign. -/
def isZero (b : UInt64) : Bool := exponentField b == 0 && fractionField b == 0

/-- The magnitude of finite bits as `m · 2^e`. -/
def magnitude (b : UInt64) : Nat × Int :=
  let e := exponentField b
  let f := fractionField b
  if e == 0 then (f, -1074) else (f + Nat.pow 2 52, (e : Int) - 1075)

/-- Whether `N / D ≥ 2^k`. -/
def atLeastPow (n d : Nat) (k : Int) : Bool :=
  if 0 ≤ k then decide (d * Nat.pow 2 k.toNat ≤ n) else decide (d ≤ n * Nat.pow 2 (-k).toNat)

/-- The binary exponent of a positive fraction: the `k` with `2^k ≤ N / D < 2^(k+1)`. -/
def binaryExponent (n d : Nat) : Int :=
  let k : Int := (n.log2 : Int) - d.log2
  if atLeastPow n d k then k else k - 1

/-- `N / D · 2^s`, rounded to the nearest whole number, ties to even. -/
def roundScaled (n d : Nat) (s : Int) : Nat :=
  let (num, den) := if 0 ≤ s then (n * Nat.pow 2 s.toNat, d) else (n, d * Nat.pow 2 (-s).toNat)
  let q := num / den
  let r := num % den
  if 2 * r > den || (2 * r == den && q % 2 == 1) then q + 1 else q

/-- The bits nearest to the positive fraction `N / D`, and whether it lies beyond the largest
finite number (the bits are then infinity). -/
def ofPositiveFraction (n d : Nat) : UInt64 × Bool :=
  let k := binaryExponent n d
  if 1023 < k then (infinity, true)
  else if k < -1022 then
    (UInt64.ofNat (roundScaled n d 1074), false)
  else
    let q := roundScaled n d (52 - k)
    let (q, k) := if q == Nat.pow 2 53 then (Nat.pow 2 52, k + 1) else (q, k)
    if 1023 < k then (infinity, true)
    else (UInt64.ofNat (((k + 1023).toNat <<< 52) + (q - Nat.pow 2 52)), false)

/-- The bits nearest to `±m · 10^e`, where `m` has `digits` decimal digits, and whether the
magnitude overflowed. -/
def ofDecimal (neg : Bool) (m : Nat) (digits : Nat) (e : Int) : UInt64 × Bool :=
  let (bits, overflowed) :=
    if m == 0 then (0, false)
    else if 400 < (digits : Int) + e then (infinity, true)
    else if (digits : Int) + e < -400 then (0, false)
    else if 0 ≤ e then ofPositiveFraction (m * Nat.pow 10 e.toNat) 1
    else ofPositiveFraction m (Nat.pow 10 (-e).toNat)
  (if neg then bits ||| signBit else bits, overflowed)

/-- The bits nearest to an integer, and whether it is too large to be a finite number. -/
def ofInt (n : Int) : UInt64 × Bool :=
  if n == 0 then (0, false)
  else
    let (bits, overflowed) := ofPositiveFraction n.natAbs 1
    (if n < 0 then bits ||| signBit else bits, overflowed)

/-- The whole number closest to zero of finite bits, dropping the fraction. -/
def truncate (b : UInt64) : Int :=
  let (m, e) := magnitude b
  let v : Int := if 0 ≤ e then (m * Nat.pow 2 e.toNat : Nat) else (m / Nat.pow 2 (-e).toNat : Nat)
  if negative b then -v else v

/-- The number of decimal digits of a positive number. -/
def decimalDigits (n : Nat) : Nat := (Nat.toDigits 10 n).length

/-- The decimal exponent of a positive fraction: the `E` with `10^E ≤ N / D < 10^(E+1)`. -/
def decimalExponent (n d : Nat) : Int :=
  let e : Int := (decimalDigits n : Int) - decimalDigits d
  let atLeast (k : Int) : Bool :=
    if 0 ≤ k then decide (d * Nat.pow 10 k.toNat ≤ n) else decide (d ≤ n * Nat.pow 10 (-k).toNat)
  if atLeast e then e else e - 1

/-- Candidates of `p` significant digits for the positive fraction `N / D` whose decimal exponent
is `E`: the one below and the one above, as `(digits, exponent of the last digit)`. -/
def candidates (n d : Nat) (E : Int) (p : Nat) : List (Nat × Int) :=
  let s : Int := E - p + 1
  let (num, den) := if 0 ≤ s then (n, d * Nat.pow 10 s.toNat) else (n * Nat.pow 10 (-s).toNat, d)
  let q := num / den
  if num % den == 0 then [(q, s)] else [(q, s), (q + 1, s)]

/-- Whether the decimal `c · 10^s` reads back to the positive bits `b`. -/
def readsBack (b : UInt64) (c : Nat) (s : Int) : Bool :=
  c != 0 && (ofDecimal false c (decimalDigits c) s).1 == b

/-- The distance of `c · 10^s` from `N / D`, as a fraction over a common denominator. -/
def distance (n d c : Nat) (s : Int) : Nat :=
  if 0 ≤ s then
    let v := c * Nat.pow 10 s.toNat * d
    if v ≥ n then v - n else n - v
  else
    let p := Nat.pow 10 (-s).toNat
    let v := c * d
    let w := n * p
    if v ≥ w then v - w else w - v

/-- The shortest decimal digits that read back to positive finite bits, with the exponent of
their last digit; of two such of the same length, the nearer. -/
def shortest (b : UInt64) : Nat × Int :=
  let (m, e) := magnitude b
  let (n, d) := if 0 ≤ e then (m * Nat.pow 2 e.toNat, 1) else (m, Nat.pow 2 (-e).toNat)
  let E := decimalExponent n d
  let rec search : Nat → Nat → Nat × Int
    | 0, _ => (m, 0)
    | fuel + 1, p =>
      let good := (candidates n d E p).filter fun (c, s) => readsBack b c s
      match good with
      | [] => search fuel (p + 1)
      | [x] => x
      | x :: y :: _ => if distance n d y.1 y.2 < distance n d x.1 x.2 then y else x
  search 17 1

/-- Digits without their trailing zeros, with the exponent of the last digit kept. -/
def dropTrailingZeros : Nat → Nat × Int → Nat × Int
  | 0, x => x
  | fuel + 1, (c, s) => if c != 0 && c % 10 == 0 then dropTrailingZeros fuel (c / 10, s + 1) else (c, s)

/-- The printed form of bits, as numbers are printed back: fixed notation for decimal exponents
from -4 to 15, else a mantissa with an exponent of at least two digits. -/
def render (b : UInt64) : String :=
  if isNaN b then "nan"
  else if isInfinite b then if negative b then "-inf" else "inf"
  else
    let sign := if negative b then "-" else ""
    if isZero b then sign ++ "0.0"
    else
      let (c, s) := dropTrailingZeros 20 (shortest (b &&& ~~~signBit))
      let ds := Nat.toDigits 10 c
      let decpt : Int := ds.length + s
      let body :=
        if decpt ≤ -4 || 16 < decpt then
          let mant := match ds with
            | [d] => [d]
            | d :: rest => d :: '.' :: rest
            | [] => []
          let x := decpt - 1
          let xs := Nat.toDigits 10 x.natAbs
          let xs := if xs.length < 2 then '0' :: xs else xs
          String.ofList mant ++ "e" ++ (if x < 0 then "-" else "+") ++ String.ofList xs
        else if decpt ≤ 0 then
          "0." ++ String.ofList (List.replicate (-decpt).toNat '0') ++ String.ofList ds
        else if ds.length ≤ decpt.toNat then
          String.ofList ds ++ String.ofList (List.replicate (decpt.toNat - ds.length) '0') ++ ".0"
        else
          String.ofList (ds.take decpt.toNat) ++ "." ++ String.ofList (ds.drop decpt.toNat)
      sign ++ body

example : render 0x3FF8000000000000 = "1.5" := by decide
example : render 0x3FB999999999999A = "0.1" := by decide

end Binary64

end LedMachine
