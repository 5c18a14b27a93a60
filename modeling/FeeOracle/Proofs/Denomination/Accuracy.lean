import FeeOracle.Proofs.Denomination.Exact

/-!
# The accuracy of a conversion

As long as the shift does not go to the right, the product and the shifted product have at most 28
digits after the point, so that rounding them errs by a small part of them only
(`IsNearest.near_of_hasPlaces`), and such errors are not magnified by the steps that follow. The
quotient may lose what is below its last place, and the text what is below its own. All four
together stay within one unit of the last digit that is written and a small part of the amount
(`IsAmount.near`).
-/

namespace FeeOracle.Denomination

open Decimal Text

/-- A small error stays as small against the value when both are scaled. -/
theorem abs_sub_mul_le {x value bound factor : ℚ} (h : |x - value| ≤ value / bound)
    (hfactor : 0 ≤ factor) : |x * factor - value * factor| ≤ value * factor / bound := by
  calc |x * factor - value * factor| = |x - value| * factor := by
        rw [← sub_mul, abs_mul, abs_of_nonneg hfactor]
    _ ≤ value / bound * factor := by gcongr
    _ = value * factor / bound := by rw [div_mul_eq_mul_div]

variable {fast : ℕ} {native asset : ℚ} {shift : ℤ} {amount : Decimal}

/-- The rounded product alone would lead to an amount that is near to the exact one, whatever the
    shift. -/
theorem near_exactAmount {value : Decimal} (shift : ℤ) (hvalue : IsNearest (fast * native) value)
    (hnative : HasPlaces maxScale native) (hasset : 0 ≤ asset) :
    |value.toRat * 10 ^ shift / asset - exactAmount fast native asset shift| ≤
      exactAmount fast native asset shift / 10 ^ 28 := by
  have herror := abs_sub_mul_le (hvalue.near_of_hasPlaces (hnative.natCast_mul fast))
    (show 0 ≤ 10 ^ shift / asset by positivity)
  rwa [← mul_div_assoc, ← mul_div_assoc, ← exactAmount_eq_div] at herror

/-- An amount that is not shifted to the right is near to the exact one. -/
theorem IsAmount.near (h : IsAmount fast native asset shift amount)
    (hnative : HasPlaces maxScale native) (hasset : 0 < asset) (hshift : 0 ≤ shift) :
    |amount.toRat - exactAmount fast native asset shift| ≤
      1 / 2 / 10 ^ 28 + 5 * (exactAmount fast native asset shift / 10 ^ 28) := by
  obtain ⟨digits, rfl⟩ := Int.eq_ofNat_of_zero_le hshift
  have hexact := exactAmount_nonneg fast digits hnative.nonneg hasset.le
  cases h with
  | @steps value shifted _ hvalue hshifted hamount =>
    have hshiftedSign := toRat_nonneg hshifted.sign
    have hplaces : HasPlaces maxScale (value.toRat * 10 ^ (digits : ℤ)) := by
      have htimes := ((hasPlaces_toRat hvalue.sign).mono value.scale_le).natCast_mul (10 ^ digits)
      rwa [Nat.cast_pow, Nat.cast_ofNat, mul_comm, ← zpow_natCast] at htimes
    have hproductError := near_exactAmount digits hvalue hnative hasset.le
    have hshiftError :=
      abs_sub_mul_le (hshifted.near_of_hasPlaces hplaces) (show 0 ≤ 1 / asset by positivity)
    rw [mul_one_div, mul_one_div] at hshiftError
    have hquotientError := hamount.near (by positivity)
    -- The exact amount, that of the rounded product, and that of the shifted one follow each other
    -- closely.
    generalize exactAmount fast native asset digits = exact at *
    generalize value.toRat * 10 ^ (digits : ℤ) / asset = ofProduct at *
    generalize shifted.toRat / asset = ofShifted at *
    rw [abs_le] at *
    constructor <;> linarith

/-- If the decimals of the asset are at least those of the gas price, what a conversion writes is
    within one unit of the 18th digit after the point and a 10^27th of the exact amount. -/
theorem denominate_near {assetDecimals nativeUnitDecimals : ℕ} {native asset : Decimal}
    {nativePrice assetPrice : Double} {text : String}
    (hnative : decimalPrice .native nativePrice = .ok native)
    (hasset : decimalPrice .asset assetPrice = .ok asset)
    (hdecimals : nativeUnitDecimals ≤ assetDecimals)
    (h : denominate fast nativePrice assetPrice assetDecimals nativeUnitDecimals = .ok text) :
    |numeralValue text.toList -
        exactAmount fast native.toRat asset.toRat ((assetDecimals : ℤ) - nativeUnitDecimals)| ≤
      1 / 10 ^ 18 + exactAmount fast native.toRat asset.toRat
        ((assetDecimals : ℤ) - nativeUnitDecimals) / 10 ^ 27 := by
  obtain ⟨-, -, amount, hamount, rfl⟩ := (denominate_eq_ok_iff_isAmount hnative hasset).1 h
  have hplaces := (hasPlaces_toRat (negative_of_decimalPrice hnative)).mono native.scale_le
  have hpositive := toRat_pos_of_decimalPrice hasset
  have hnonneg :=
    exactAmount_nonneg fast ((assetDecimals : ℤ) - nativeUnitDecimals) hplaces.nonneg hpositive.le
  have hsteps := hamount.near hplaces hpositive (by omega)
  have hwritten := near_roundTo hamount.sign maxFractionDigits
  rw [numeralValue_amountText hamount.sign]
  generalize exactAmount fast native.toRat asset.toRat
    ((assetDecimals : ℤ) - nativeUnitDecimals) = exact at *
  calc |(amount.roundTo maxFractionDigits).toRat - exact|
      ≤ |(amount.roundTo maxFractionDigits).toRat - amount.toRat| + |amount.toRat - exact| :=
        abs_sub_le ..
    _ ≤ 1 / 2 / 10 ^ 18 + (1 / 2 / 10 ^ 28 + 5 * (exact / 10 ^ 28)) := add_le_add hwritten hsteps
    _ ≤ 1 / 10 ^ 18 + exact / 10 ^ 27 := by linarith

/-- The largest gas price at a price with 16 digits, where the product does not fit and the quotient
    is a third. -/
theorem denominate_near_largest :
    decimalPrice .native 0.12345678901234567 =
      .ok { negative := false, coefficient := 1234567890123457, scale := 16 } ∧
    decimalPrice .asset 3 = .ok { negative := false, coefficient := 3, scale := 0 } ∧
    denominate 18446744073709551615 0.12345678901234567 3 18 9 =
      .ok "759125263690899509776153415.47" ∧
    |numeralValue "759125263690899509776153415.47".toList -
        18446744073709551615 * 0.1234567890123457 / 3 * 10 ^ 9| ≤
      1 / 10 ^ 18 + 18446744073709551615 * 0.1234567890123457 / 3 * 10 ^ 9 / 10 ^ 27 := by
  have hnative : decimalPrice .native 0.12345678901234567 =
      .ok { negative := false, coefficient := 1234567890123457, scale := 16 } := by decide +kernel
  have hasset : decimalPrice .asset 3 =
      .ok { negative := false, coefficient := 3, scale := 0 } := by decide +kernel
  have hamount : denominate 18446744073709551615 0.12345678901234567 3 18 9 =
      .ok "759125263690899509776153415.47" := by
    decide +kernel
  have hexact : exactAmount 18446744073709551615
      (toRat { negative := false, coefficient := 1234567890123457, scale := 16 })
      (toRat { negative := false, coefficient := 3, scale := 0 }) (((18 : ℕ) : ℤ) - (9 : ℕ)) =
        18446744073709551615 * 0.1234567890123457 / 3 * 10 ^ 9 := by
    norm_num [exactAmount, toRat, Rat.mkRat_eq_div]
  have hnear := denominate_near hnative hasset (by decide) hamount
  rw [hexact] at hnear
  exact ⟨hnative, hasset, hamount, hnear⟩

end FeeOracle.Denomination
