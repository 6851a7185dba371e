/-!
# Classes of characters given by ranges

A class of characters is written down as a list of closed ranges of code points.

## Main definitions

* `CampusBoard.Text.inRanges`: membership of a character in such a list.
-/

set_option autoImplicit false

namespace CampusBoard.Text

/-- A list of closed ranges of code points, each given by its first and last member. -/
abbrev Ranges := List (Nat × Nat)

/-- Whether the code point of `c` lies in one of the ranges. -/
def inRanges (ranges : Ranges) (c : Char) : Bool :=
  ranges.any fun r => decide (r.1 ≤ c.toNat) && decide (c.toNat ≤ r.2)

/-- A character is in a list of ranges when it is in one of them. -/
theorem inRanges_iff {ranges : Ranges} {c : Char} :
    inRanges ranges c = true ↔ ∃ r ∈ ranges, r.1 ≤ c.toNat ∧ c.toNat ≤ r.2 := by
  simp [inRanges]

end CampusBoard.Text
