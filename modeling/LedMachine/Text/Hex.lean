/-!
# Hexadecimal digits

Numbers written in base sixteen with a fixed least width, in lower or upper case.
-/

namespace LedMachine.Text

/-- The hexadecimal digits of `n`, most significant first, padded with zeros to `width`. -/
def hexDigits (width n : Nat) : List Char :=
  let ds := Nat.toDigits 16 n
  List.replicate (width - ds.length) '0' ++ ds

/-- Upper-case form of an ASCII letter; other characters stay. -/
def asciiUpper (c : Char) : Char :=
  if 'a' ≤ c ∧ c ≤ 'z' then Char.ofNat (c.toNat - 32) else c

/-- The hexadecimal digits of `n` in upper case, at least `width` of them. -/
def hexDigitsUpper (width n : Nat) : List Char := (hexDigits width n).map asciiUpper

example : hexDigits 2 10 = ['0', 'a'] := by decide
example : hexDigits 4 0x200b = ['2', '0', '0', 'b'] := by decide
example : hexDigitsUpper 2 255 = ['F', 'F'] := by decide
example : hexDigits 2 0 = ['0', '0'] := by decide

end LedMachine.Text
