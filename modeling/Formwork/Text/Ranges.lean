/-
  Formwork.Text.Ranges: classes of characters as ranges of code points.
-/

namespace Formwork.Text

def inRanges (ranges : List (Nat × Nat)) (c : Char) : Bool :=
  ranges.any fun r => r.1 ≤ c.toNat && c.toNat ≤ r.2

end Formwork.Text
