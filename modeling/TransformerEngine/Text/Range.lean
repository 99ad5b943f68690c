/-!
# Ranges of characters

Properties of characters are kept as lists of ranges of code points. A range contains
its two ends.
-/

namespace TransformerEngine.Text

/-- The code points from `first` to `last`, both included. -/
structure Range where
  /-- The first code point. -/
  first : Nat
  /-- The last code point. -/
  last : Nat
deriving DecidableEq, Repr

/-- `c` lies in one of `ranges`. -/
def inRanges (ranges : List Range) (c : Char) : Bool :=
  ranges.any fun r => r.first ≤ c.toNat && c.toNat ≤ r.last

theorem inRanges_iff (ranges : List Range) (c : Char) :
    inRanges ranges c = true ↔ ∃ r ∈ ranges, r.first ≤ c.toNat ∧ c.toNat ≤ r.last := by
  simp [inRanges]

end TransformerEngine.Text
