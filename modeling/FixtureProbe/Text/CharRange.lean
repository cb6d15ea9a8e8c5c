/-!
# Sets of characters by ranges

A property of characters is given as a list of ranges of code points.
-/

namespace FixtureProbe

/-- A list of ranges of code points, both ends included. -/
abbrev CharRanges := List (Nat × Nat)

namespace CharRanges

def holds (ranges : CharRanges) (c : Char) : Bool :=
  ranges.any fun range => range.1 ≤ c.toNat && c.toNat ≤ range.2

end CharRanges

end FixtureProbe
