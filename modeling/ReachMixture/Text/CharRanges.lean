/-!
# Sets of characters

A set of characters as a list of ranges of code points, both ends included.
-/

namespace ReachMixture.Text

/-- Ranges of code points, ends included, in ascending order. -/
abbrev CharRanges := List (Nat × Nat)

/-- Whether the code point of `c` lies in one of the ranges. -/
def CharRanges.has (ranges : CharRanges) (c : Char) : Bool :=
  ranges.any fun (low, high) => low ≤ c.toNat && c.toNat ≤ high

end ReachMixture.Text
