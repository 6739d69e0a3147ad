import MarkTex.Text.CodePoint

/-!
# Ranges of characters

The properties of the Unicode standard come as sorted lists of closed ranges. This module holds the
membership test for such a list.
-/

namespace MarkTex

/-- Whether a number lies in one of the closed ranges. -/
def inRanges (ranges : List (Nat × Nat)) (n : Nat) : Bool :=
  ranges.any fun r => r.1 ≤ n && n ≤ r.2

end MarkTex
