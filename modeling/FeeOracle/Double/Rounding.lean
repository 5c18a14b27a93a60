import FeeOracle.Double.Basic
import FeeOracle.Power
import FeeOracle.Rounding

/-!
# The double nearest to a quotient

Every result of double arithmetic is the double nearest to an exact quotient, halfway the one with
the even magnitude. With `shift` chosen so that the significand has 53 binary digits, the rounded
significand plus `shift` binades is the magnitude sought; a significand rounded up to `2 ^ 53` lands
in the next binade by itself, and beyond the last binade on infinity.
-/

namespace FeeOracle.Double

/-- The magnitude nearest to `num / den` units. -/
def nearestMagnitude (num den : Nat) : Nat :=
  let whole := num / den
  let shift := if whole < 2 ^ (53 : Nat) then 0 else whole.log2 - 52
  shift * 2 ^ (52 : Nat) + halfEven num (den * 2 ^ shift)

/-- The double nearest to `num / den` units. -/
def ofUnits (negative : Bool) (num den : Nat) : Double :=
  ofMagnitude negative (nearestMagnitude num den)

/-- The double nearest to `num / den`. -/
def ofRatio (negative : Bool) (num den : Nat) : Double :=
  ofUnits negative (num * unitsPerOne) den

/-- The double nearest to a natural number. -/
def ofNat (n : Nat) : Double := ofRatio false n 1

/-- The double nearest to an integer. -/
def ofInt (n : Int) : Double := ofRatio (n < 0) n.natAbs 1

/-- The number of decimal digits of a natural number. -/
def decimalLength (n : Nat) : Nat := (Nat.toDigits 10 n).length

/-- The double nearest to `significand · 10 ^ exponent`. Far outside the range of doubles the answer
    is infinity or zero, and the power is not computed. -/
def ofScientific (negative : Bool) (significand : Nat) (exponent : Int) : Double :=
  let top := exponent + decimalLength significand
  if significand = 0 ∨ top < -400 then { zero with negative := negative }
  else if 400 < top then { infinity with negative := negative }
  else if 0 ≤ exponent then ofRatio negative (significand * 10 ^ exponent.toNat) 1
  else ofRatio negative significand (10 ^ (-exponent).toNat)

instance (n : Nat) : OfNat Double n := ⟨ofNat n⟩

instance : OfScientific Double where
  ofScientific significand negativeExponent exponent :=
    Double.ofScientific false significand (if negativeExponent then -(exponent : Int) else exponent)

end FeeOracle.Double
