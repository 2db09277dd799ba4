/-!
# Ranges of code points

A class of characters is given by the closed ranges of code points that it holds.
-/

namespace Flattener

/-- Whether a code point lies in one of the closed ranges. -/
def inRanges (ranges : List (Nat × Nat)) (n : Nat) : Bool :=
  ranges.any fun r => r.1 ≤ n && n ≤ r.2

end Flattener
