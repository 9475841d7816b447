/-!
# Classes of characters given by ranges

A class is a table of inclusive ranges of code points.
-/

namespace TrainingJobs.Text

/-- Whether a character's code point lies in one of the ranges. -/
def inRanges (ranges : Array (Nat × Nat)) (c : Char) : Bool :=
  ranges.any fun r => decide (r.1 ≤ c.toNat) && decide (c.toNat ≤ r.2)

end TrainingJobs.Text
