/-!
# Classes of characters as tables of ranges

A character class is listed as inclusive ranges of code points in increasing
order.  `inRanges` reads such a table from the left and stops at the first
range that begins above the code point, so a common character is settled after
a few comparisons.
-/

namespace Laoke.Text

/-- Whether a code point lies in one of the ranges of an increasing table. -/
def inRanges : List (Nat × Nat) → Nat → Bool
  | [], _ => false
  | (low, high) :: rest, n => if n < low then false else n ≤ high || inRanges rest n

end Laoke.Text
