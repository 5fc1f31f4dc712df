/-! Tables of code points, as ranges with both ends. -/

namespace AsmScope.Text

def inRanges (ranges : List (Nat × Nat)) (n : Nat) : Bool :=
  ranges.any fun range => range.1 ≤ n && n ≤ range.2

end AsmScope.Text
