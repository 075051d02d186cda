/-!
# Sets of characters given by ranges

A property of characters that a standard fixes by a table is a list of ranges of code
points, both ends included.
-/

namespace Provision

/-- Ranges of code points, both ends included. -/
abbrev CharRanges := List (Nat × Nat)

/-- The character lies in one of the ranges. -/
def CharRanges.contains (ranges : CharRanges) (c : Char) : Bool :=
  ranges.any fun range => range.1 ≤ c.toNat && c.toNat ≤ range.2

end Provision
