/-!
# Sets of characters given by ranges

Large sets of characters are tables of closed ranges of code points, in ascending order.
-/

namespace DocSelector.Text

/-- Whether the code point of `c` lies in one of the closed ranges. -/
def inRanges (ranges : List (Nat × Nat)) (c : Char) : Bool :=
  ranges.any fun range => range.1 ≤ c.toNat && c.toNat ≤ range.2

end DocSelector.Text
