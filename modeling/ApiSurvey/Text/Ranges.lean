/-!
# Sets of code points

A set of code points is an ascending list of closed ranges. The search for a code point stops at
the first range that ends at or above it, so that the order of the ranges matters.
-/

namespace ApiSurvey.Text

/-- Whether a code point lies in one of the ranges of an ascending list. -/
def inRanges : List (Nat × Nat) → Nat → Bool
  | [], _ => false
  | (low, high) :: rest, n =>
      if n < low then false
      else if n ≤ high then true
      else inRanges rest n

end ApiSurvey.Text
