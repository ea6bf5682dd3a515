/-! # Sets of characters by ranges -/

namespace SqlTree.Text

/-- The number of the character lies in one of the ranges, ends included. -/
def inRanges (ranges : List (Nat × Nat)) (c : Char) : Bool :=
  ranges.any fun r => r.1 ≤ c.toNat && c.toNat ≤ r.2

end SqlTree.Text
