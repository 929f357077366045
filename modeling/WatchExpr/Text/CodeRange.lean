/-!
# Ranges of code points

A character class that no short rule describes is kept as a list of closed ranges of code points.
`inRanges rs c` asks whether `c` lies in one of them.
-/

namespace WatchExpr

/-- The code points from `first` to `last`, both included. -/
structure CodeRange where
  first : Nat
  last : Nat
  deriving DecidableEq, Repr

/-- Whether the code point of `c` lies in the range. -/
def CodeRange.contains (r : CodeRange) (c : Char) : Bool :=
  decide (r.first ≤ c.toNat) && decide (c.toNat ≤ r.last)

theorem CodeRange.contains_iff {r : CodeRange} {c : Char} :
    r.contains c = true ↔ r.first ≤ c.toNat ∧ c.toNat ≤ r.last := by
  simp [CodeRange.contains]

/-- Whether `c` lies in one of the ranges. -/
def inRanges (rs : List CodeRange) (c : Char) : Bool :=
  rs.any fun r => r.contains c

theorem inRanges_iff {rs : List CodeRange} {c : Char} :
    inRanges rs c = true ↔ ∃ r ∈ rs, r.first ≤ c.toNat ∧ c.toNat ≤ r.last := by
  simp [inRanges, CodeRange.contains_iff]

end WatchExpr
