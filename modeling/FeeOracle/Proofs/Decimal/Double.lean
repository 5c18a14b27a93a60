import FeeOracle.Decimal.Binary
import FeeOracle.Proofs.Double.Accuracy
import Mathlib.Tactic.NormNum

/-!
# Doubles from short decimal numbers

A decimal number becomes a double in several rounded steps: its whole part and its fraction are
converted apart, added, scaled up, rounded to a whole number and scaled down again. With a
coefficient of 15 digits at most the steps lose less than a half of the last digit altogether, so
that rounding restores the coefficient (`roundNat_mul_eq`). Then scaling down is the one rounding
that counts, as long as the power of ten is a double (`magnitudeToDouble_eq_ofRatio`).
-/

namespace FeeOracle

open Double

/-- What is nearer to an integer than a half rounds to it. -/
theorem halfUp_eq_of_near {num den n : ℕ} (hden : 0 < den) (h : |(num / den - n : ℚ)| < 1 / 2) :
    halfUp num den = n := by
  have hpos : (0 : ℚ) < den := by exact_mod_cast hden
  obtain ⟨hlow, hhigh⟩ := abs_lt.1 h
  have hbelow : ((n : ℚ) - 1 / 2) * den < num := by
    rw [← lt_div_iff₀ hpos]
    linarith
  have habove : (num : ℚ) < (n + 1 / 2) * den := by
    rw [← div_lt_iff₀ hpos]
    linarith
  have hfloor : n * (2 * den) ≤ 2 * num + den := by
    have : (n * (2 * den) : ℚ) ≤ 2 * num + den := by linarith
    exact_mod_cast this
  have hceil : 2 * num + den < (n + 1) * (2 * den) := by
    have : (2 * num + den : ℚ) < (n + 1) * (2 * den) := by linarith
    exact_mod_cast this
  exact Nat.div_eq_of_lt_le hfloor hceil

theorem Double.roundNat_eq_of_near {x : Double} {n : ℕ} (hx : IsUnsigned x)
    (h : |x.toRat - n| < 1 / 2) : x.roundNat = n := by
  refine halfUp_eq_of_near (Nat.cast_pos.1 unitsPerOne_pos) ?_
  rwa [units_eq_toRat_mul hx.sign, mul_div_cancel_right₀ _ unitsPerOne_pos.ne']

namespace Decimal

/-- Whole part and fraction, put together and scaled up, are the coefficient again. -/
theorem roundNat_mul_eq {whole rest power : ℕ} {x y z : Double} (hx : IsNat whole x)
    (hy : Rounds (rest / power) y) (hz : IsNat power z) (hrest : 0 < rest) (hpositive : 0 < power)
    (hpower : power ≤ 10 ^ 22) (hshort : whole * power + rest < 10 ^ 15) :
    ((x + y) * z).roundNat = whole * power + rest := by
  have hone : (1 : ℚ) ≤ power := by exact_mod_cast hpositive
  have hpos : (0 : ℚ) < power := by linarith
  have hrest : (1 : ℚ) ≤ rest := by exact_mod_cast hrest
  have hpower : (power : ℚ) ≤ 10 ^ 22 := by exact_mod_cast hpower
  have hshort : (whole : ℚ) * power + rest ≤ 10 ^ 15 := by exact_mod_cast hshort.le
  have hwhole : (0 : ℚ) ≤ whole := Nat.cast_nonneg whole
  have hwholeLe : (whole : ℚ) ≤ whole * power := le_mul_of_one_le_right hwhole hone
  -- Each of the three roundings loses one part in 2 ^ 53 at most.
  have hfraction : |y.toRat * power - rest| ≤ rest / 2 ^ 53 := by
    have hscaled := hy.scaled hpos.le
    rwa [div_mul_cancel₀ _ hpos.ne'] at hscaled
  obtain ⟨hfractionLow, hfractionHigh⟩ := abs_le.1 hfraction
  have hnonneg : 0 ≤ y.toRat := toRat_nonneg hy.sign
  have hfractionLe : y.toRat ≤ y.toRat * power := le_mul_of_one_le_right hnonneg hone
  have hfractionGe : y.toRat * power ≤ y.toRat * 10 ^ 22 := mul_le_mul_of_nonneg_left hpower hnonneg
  have hsum : Rounds (whole + y.toRat) (x + y) := by
    rw [← hx.toRat_eq]
    refine rounds_add hx.toIsUnsigned hy.toIsUnsigned ?_
    rw [hx.toRat_eq]
    constructor <;> linarith
  obtain ⟨hsumLow, hsumHigh⟩ := abs_le.1 (hsum.scaled hpos.le)
  rw [add_mul] at hsumLow hsumHigh
  have hproduct : Rounds ((x + y).toRat * power) ((x + y) * z) := by
    rw [← hz.toRat_eq]
    refine rounds_mul hsum.toIsUnsigned hz.toIsUnsigned ?_
    rw [hz.toRat_eq]
    constructor <;> linarith
  obtain ⟨hproductLow, hproductHigh⟩ := abs_le.1 hproduct.near
  refine roundNat_eq_of_near hproduct.toIsUnsigned (abs_lt.2 ?_)
  push_cast
  constructor <;> linarith

/-- A decimal number with 15 digits at most, 22 of them at most after the point, becomes the
    quotient of its coefficient and its power of ten, rounded once. -/
theorem magnitudeToDouble_eq_ofRatio {x : Decimal} (hcoefficient : x.coefficient < 10 ^ 15)
    (hscale : x.scale ≤ 22) : x.magnitudeToDouble = ofRatio false x.coefficient (10 ^ x.scale) := by
  have hpositive : 0 < 10 ^ x.scale := Nat.pow_pos (by decide)
  have hpowerLe : 10 ^ x.scale ≤ 10 ^ 22 := Nat.pow_le_pow_right (by decide) hscale
  have hsplit := Nat.div_add_mod' x.coefficient (10 ^ x.scale)
  have hrestLt := Nat.mod_lt x.coefficient hpositive
  have hwholeLe := Nat.div_le_self x.coefficient (10 ^ x.scale)
  have hpower := isNat_ofNat_ten_pow hscale
  have hpowers : ∀ exponent ∈ List.range 23,
      scaleByPower 1 10 exponent = Double.ofNat (10 ^ exponent) := by
    decide +kernel
  have hscaled := hpowers x.scale (List.mem_range.2 (by omega))
  unfold magnitudeToDouble
  generalize hwhole : x.coefficient / 10 ^ x.scale = whole at *
  generalize hrest : x.coefficient % 10 ^ x.scale = rest at *
  have hwholeNat : IsNat whole (Double.ofNat whole) := isNat_ofNat (by omega)
  have hrestNat : IsNat rest (Double.ofNat rest) := isNat_ofNat (by omega)
  have hcoefficientNat : IsNat x.coefficient (Double.ofNat x.coefficient) := isNat_ofNat (by omega)
  have hfraction := div_of_isNat hrestNat hpower hpositive
  dsimp only
  rw [hfraction, hscaled, ← hsplit]
  rcases Nat.eq_zero_or_pos rest with rfl | hrestPos
  · have hzero : (ofRatio false 0 (10 ^ x.scale)).magnitude = 0 := by
      have hnone := ofRatio_mul_self 0 hpositive
      rw [Nat.zero_mul] at hnone
      rw [hnone]
      decide +kernel
    rw [if_pos hzero, Nat.add_zero, ofRatio_mul_self whole hpositive]
  · have hmoderate : IsModerate (rest / (10 ^ x.scale : ℕ)) :=
      isModerate_div hrestPos (by omega) hpositive hpowerLe
    have hrounds := rounds_ofRatio hpositive hmoderate
    rw [if_neg (hrounds.magnitude_ne_zero (by positivity)),
      roundNat_mul_eq hwholeNat hrounds hpower hrestPos hpositive hpowerLe (by omega), hsplit,
      div_of_isNat hcoefficientNat hpower hpositive]

end Decimal
end FeeOracle
