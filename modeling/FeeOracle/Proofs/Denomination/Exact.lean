import FeeOracle.Proofs.Denomination.Steps

/-!
# Exact conversions

Where the product, the shifted product and the quotient are decimal numbers themselves, none of the
three steps of a conversion rounds anything (`exists_isAmount_of_isRepresentable`), and an amount of
at most 18 digits after the point is also written as it is. So a conversion between equal prices and
equal decimals gives back what it was given.
-/

namespace FeeOracle.Denomination

open Decimal Text

theorem exactAmount_eq_div (fast : ℕ) (native asset : ℚ) (shift : ℤ) :
    exactAmount fast native asset shift = fast * native * 10 ^ shift / asset :=
  div_mul_eq_mul_div ..

theorem exactAmount_nonneg (fast : ℕ) {native asset : ℚ} (shift : ℤ) (hnative : 0 ≤ native)
    (hasset : 0 ≤ asset) : 0 ≤ exactAmount fast native asset shift := by
  rw [exactAmount]
  positivity

section Steps

variable {fast : ℕ} {native asset : ℚ} {shift : ℤ}

/-- Nothing overflows on the way to an amount, and nothing is rounded, if the exact results are
    decimal numbers. -/
theorem exists_isAmount_of_isRepresentable (hnative : 0 ≤ native) (hasset : 0 ≤ asset)
    (hproduct : IsRepresentable (fast * native))
    (hshifted : IsRepresentable (fast * native * 10 ^ shift))
    (hquotient : IsRepresentable (exactAmount fast native asset shift)) :
    ∃ amount, IsAmount fast native asset shift amount ∧
      amount.toRat = exactAmount fast native asset shift := by
  obtain ⟨value, hvalue, hvalueEq⟩ := hproduct.exists_isNearest (by positivity)
  obtain ⟨shifted, hpower, hshiftedEq⟩ := hshifted.exists_isNearest (by positivity)
  obtain ⟨amount, hamount, hexact⟩ :=
    hquotient.exists_isNearest (exactAmount_nonneg fast shift hnative hasset)
  refine ⟨amount, .steps hvalue (by rwa [hvalueEq]) ?_, hexact⟩
  rwa [hshiftedEq, ← exactAmount_eq_div]

end Steps

section Text

variable {fast assetDecimals nativeUnitDecimals : ℕ} {native asset : Decimal}
  {nativePrice assetPrice : Double}

/-- A conversion whose exact results are decimal numbers writes the exact amount. -/
theorem exists_denominate_of_isRepresentable (hfast : fast < coefficientBound)
    (hnative : decimalPrice .native nativePrice = .ok native)
    (hasset : decimalPrice .asset assetPrice = .ok asset) {shift : ℤ}
    (hdecimals : (assetDecimals : ℤ) - nativeUnitDecimals = shift) (hshift : shift.natAbs ≤ 28)
    (hproduct : IsRepresentable (fast * native.toRat))
    (hshifted : IsRepresentable (fast * native.toRat * 10 ^ shift))
    (hquotient : IsRepresentable (exactAmount fast native.toRat asset.toRat shift))
    (hplaces : HasPlaces maxFractionDigits (exactAmount fast native.toRat asset.toRat shift)) :
    ∃ text, denominate fast nativePrice assetPrice assetDecimals nativeUnitDecimals = .ok text ∧
      IsCanonicalNumeral maxFractionDigits text.toList ∧
      numeralValue text.toList = exactAmount fast native.toRat asset.toRat shift := by
  have hnativeSign := toRat_nonneg (negative_of_decimalPrice hnative)
  have hassetSign := toRat_nonneg (negative_of_decimalPrice hasset)
  obtain ⟨amount, hamount, hexact⟩ :=
    exists_isAmount_of_isRepresentable hnativeSign hassetSign hproduct hshifted hquotient
  refine ⟨amountText amount, ?_, isCanonicalNumeral_amountText hamount.sign, ?_⟩
  · rw [denominate_eq_ok_iff_isAmount hnative hasset, hdecimals]
    exact ⟨hshift, hfast, amount, hamount, rfl⟩
  · rw [numeralValue_amountText hamount.sign, toRat_roundTo hamount.sign (by rwa [hexact]), hexact]

/-- A canonical numeral of a whole number is its digits. -/
theorem eq_toString_of_numeralValue {text : String} {places n : ℕ}
    (h : IsCanonicalNumeral places text.toList) (hvalue : numeralValue text.toList = n) :
    text = toString n := by
  have hwhole := isWholeNumeral_toDigits n
  have hdigits : (toString n).toList = Nat.toDigits 10 n := by
    rw [Nat.toString_eq_ofList_toDigits, String.toList_ofList]
  have hcanonical : IsCanonicalNumeral places (Nat.toDigits 10 n) := .whole hwhole
  rw [← String.toList_inj, hdigits, ← h.numeralValue_inj hcanonical, hvalue,
    numeralValue_of_isDigit hwhole.isDigit, digitsValue_toDigits]

end Text

/-- Where the product and the shifted product are decimal numbers, and the quotient is one with at
    most 18 digits after the point, the conversion succeeds and writes exactly the quotient. In
    particular equal prices and equal decimals give back the number that they are given. -/
theorem denominate_exact :
    (∀ (fast : ℕ) (nativePrice assetPrice : Double) (assetDecimals nativeUnitDecimals : ℕ)
        (native asset : Decimal) (shift : ℤ) (quotient : ℚ),
      fast < 2 ^ (64 : Nat) → decimalPrice .native nativePrice = .ok native →
      decimalPrice .asset assetPrice = .ok asset →
      (assetDecimals : ℤ) - nativeUnitDecimals = shift → shift.natAbs ≤ 28 →
      fast * native.toRat * 10 ^ shift / asset.toRat = quotient →
      IsRepresentable (fast * native.toRat) → IsRepresentable (fast * native.toRat * 10 ^ shift) →
      IsRepresentable quotient → HasPlaces 18 quotient →
      ∃ text, denominate fast nativePrice assetPrice assetDecimals nativeUnitDecimals = .ok text ∧
        IsCanonicalNumeral 18 text.toList ∧ numeralValue text.toList = quotient) ∧
    ∀ (fast : ℕ) (price : Double) (decimals : ℕ) (native : Decimal),
      fast < 2 ^ (64 : Nat) → decimalPrice .native price = .ok native →
      IsRepresentable (fast * native.toRat) →
      denominate fast price price decimals decimals = .ok (toString fast) := by
  have hfits : ∀ fast, fast < 2 ^ (64 : Nat) → fast < coefficientBound :=
    fun fast hfast => Nat.lt_trans hfast (by decide +kernel)
  constructor
  · rintro fast nativePrice assetPrice assetDecimals nativeUnitDecimals native asset shift quotient
      hfast hnative hasset
      hdecimals hshift rfl hproduct hshifted hquotient hplaces
    rw [← exactAmount_eq_div] at hquotient hplaces ⊢
    exact exists_denominate_of_isRepresentable
      (hfits fast hfast) hnative hasset hdecimals hshift hproduct hshifted
      hquotient hplaces
  · intro fast price decimals native hfast hprice hproduct
    have hpositive := toRat_pos_of_decimalPrice hprice
    have hsame : exactAmount fast native.toRat native.toRat 0 = fast := by
      rw [exactAmount, zpow_zero, mul_one, mul_div_cancel_right₀ _ hpositive.ne']
    have hnumber : IsRepresentable (fast : ℚ) := by
      obtain ⟨x, hx⟩ := exists_ofNat?_iff.2 (hfits fast hfast)
      exact ⟨x, toRat_of_ofNat? hx⟩
    obtain ⟨text, htext, hcanonical, hvalue⟩ :=
      exists_denominate_of_isRepresentable (hfits fast hfast) hprice (decimalPrice_ok_of_ok hprice)
        (sub_self (decimals : ℤ)) (by decide) hproduct (by simpa using hproduct) (by rwa [hsame])
        (by rw [hsame]; exact hasPlaces_natCast fast _)
    rw [htext, eq_toString_of_numeralValue hcanonical (hvalue.trans hsame)]

/-- A fraction of a unit, with a shift to the right, and the largest number between equal prices. -/
theorem denominate_exact_fraction :
    decimalPrice .native 3000 = .ok { negative := false, coefficient := 3000, scale := 0 } ∧
    decimalPrice .asset 60000 = .ok { negative := false, coefficient := 60000, scale := 0 } ∧
    (∃ text, denominate 30 3000 60000 8 9 = .ok text ∧ IsCanonicalNumeral 18 text.toList ∧
      numeralValue text.toList = 3 / 20) ∧
    decimalPrice .native 0.1 = .ok { negative := false, coefficient := 1, scale := 1 } ∧
    denominate 18446744073709551615 0.1 0.1 9 9 = .ok "18446744073709551615" := by
  obtain ⟨hexact, hsame⟩ := denominate_exact
  have hnative : decimalPrice .native 3000 =
      .ok { negative := false, coefficient := 3000, scale := 0 } := by
    decide +kernel
  have hasset : decimalPrice .asset 60000 =
      .ok { negative := false, coefficient := 60000, scale := 0 } := by
    decide +kernel
  have htenth : decimalPrice .native 0.1 =
      .ok { negative := false, coefficient := 1, scale := 1 } := by
    decide +kernel
  refine ⟨hnative, hasset, ?_, htenth, ?_⟩
  · refine hexact 30 3000 60000 8 9 _ _ (-1) (3 / 20) (by decide) hnative hasset (by decide)
      (by decide) ?_ ⟨{ negative := false, coefficient := 90000, scale := 0 }, ?_⟩
      ⟨{ negative := false, coefficient := 9000, scale := 0 }, ?_⟩
      ⟨{ negative := false, coefficient := 15, scale := 2 }, ?_⟩ ⟨150000000000000000, ?_⟩ <;>
      norm_num [toRat, Rat.mkRat_eq_div]
  · refine hsame 18446744073709551615 0.1 9 _ (by decide) htenth
      ⟨{ negative := false, coefficient := 18446744073709551615, scale := 1 }, ?_⟩
    norm_num [toRat, Rat.mkRat_eq_div]

end FeeOracle.Denomination
