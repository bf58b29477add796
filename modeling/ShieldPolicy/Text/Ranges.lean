/-!
# Sets of code points as ranges
-/

namespace ShieldPolicy.Text

def inRanges (ranges : List (Nat × Nat)) (n : Nat) : Bool :=
  ranges.any fun (first, last) => decide (first ≤ n) && decide (n ≤ last)

end ShieldPolicy.Text
