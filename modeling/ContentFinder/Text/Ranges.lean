/-! Sets of characters given as ranges of code points. -/

namespace ContentFinder.Text

abbrev CodeRange := Nat × Nat

def inRanges (ranges : List CodeRange) (c : Char) : Bool :=
  ranges.any fun range => range.1 ≤ c.toNat && c.toNat ≤ range.2

end ContentFinder.Text
