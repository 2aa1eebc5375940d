/-!
# Ranges of code points

A property of characters is given by the ranges of code points that have it.

## Main definitions

* `inRanges` — membership of a code point in a list of closed ranges.
-/

namespace KeyLayers.Text

/-- Whether the code point `c` lies in one of the closed ranges. -/
def inRanges (ranges : List (Nat × Nat)) (c : Nat) : Bool :=
  ranges.any fun r => r.1 ≤ c && c ≤ r.2

theorem inRanges_iff {ranges : List (Nat × Nat)} {c : Nat} :
    inRanges ranges c ↔ ∃ r ∈ ranges, r.1 ≤ c ∧ c ≤ r.2 := by
  simp [inRanges]

end KeyLayers.Text
