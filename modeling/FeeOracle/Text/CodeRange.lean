/-!
# Ranges of code points

A property of characters is written down as a list of ranges, in ascending order. Membership is a
test of the code point against each range.
-/

namespace FeeOracle.Text

/-- The code points from `first` to `last`, both included. -/
structure CodeRange where
  first : Nat
  last : Nat
deriving Repr, DecidableEq

/-- Does the range hold the code point? -/
def CodeRange.holds (range : CodeRange) (code : Nat) : Bool :=
  range.first ≤ code && code ≤ range.last

/-- Does one of the ranges hold the character? -/
def within (ranges : List CodeRange) (c : Char) : Bool :=
  ranges.any (·.holds c.toNat)

theorem within_iff {ranges : List CodeRange} {c : Char} :
    within ranges c = true ↔ ∃ range ∈ ranges, range.first ≤ c.toNat ∧ c.toNat ≤ range.last := by
  simp [within, CodeRange.holds]

end FeeOracle.Text
