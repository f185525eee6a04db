/-!
# Ranges of code points

Character classes of the Unicode standard are kept as lists of inclusive ranges of code points.
-/

namespace IncidentTriage.Text

/-- The code point of `c` lies in one of the ranges, ends included. -/
def inRanges (ranges : List (Nat × Nat)) (c : Char) : Bool :=
  ranges.any fun r => decide (r.1 ≤ c.toNat) && decide (c.toNat ≤ r.2)

end IncidentTriage.Text
