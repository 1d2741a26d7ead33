/-! # Ranges of code points

Character properties are given as lists of ranges of code points, both ends included.
-/

namespace QueryModel.Unicode

/-- Whether a code point lies in one of the ranges. -/
def inRanges (ranges : List (Nat × Nat)) (c : Char) : Bool :=
  ranges.any fun range => range.1 ≤ c.toNat && c.toNat ≤ range.2

end QueryModel.Unicode
