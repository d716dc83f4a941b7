/-!
# Tables of code point ranges

A character property is stored as closed ranges of code points, ascending and apart. Looking a
code point up walks the ranges and stops at the first one that starts above it.
-/

namespace LedMachine.Text

/-- Whether `n` lies in one of the closed ranges, which are ascending and apart. -/
def inRanges : List (Nat × Nat) → Nat → Bool
  | [], _ => false
  | (lo, hi) :: rest, n => if n < lo then false else if n ≤ hi then true else inRanges rest n

end LedMachine.Text
