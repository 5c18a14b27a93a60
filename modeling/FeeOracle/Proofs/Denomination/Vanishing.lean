import FeeOracle.Proofs.Denomination.Accuracy

/-!
# Amounts that vanish

A shift to the right cuts what it moves beyond the 28th digit after the point, before a small price
of the asset would bring it back. So an amount that is large enough to be written still comes out as
zero if its shifted product rounds to zero, and in no other case (`IsAmount.roundTo_pos_iff`).
-/

namespace FeeOracle.Denomination

open Decimal Text

/-- Rounding a product makes no difference to whether it survives a shift. -/
theorem lt_mul_zpow_iff {value : ℚ} {x : Decimal} {shift : ℤ} (h : IsNearest value x)
    (hplaces : HasPlaces maxScale value) (hshift : shift.natAbs ≤ 28) :
    1 / 2 / 10 ^ 28 < x.toRat * 10 ^ shift ↔ 1 / 2 / 10 ^ 28 < value * 10 ^ shift := by
  rcases Nat.lt_or_eq_of_le x.scale_le with hlt | heq
  · -- What is rounded is large, and no shift in range takes it beyond the last place.
    have hfull := h.full hlt
    have hlarge : 5 * 10 ^ 28 ≤ overflowBound := by decide +kernel
    have hpow : (10 : ℚ) ^ (x.scale + 1) ≤ 10 ^ 28 := pow_le_pow_right₀ (by norm_num) hlt
    have hscaled : value * 10 ^ (x.scale + 1) ≤ value * 10 ^ 28 :=
      mul_le_mul_of_nonneg_left hpow hplaces.nonneg
    have hnear := (abs_le.1 (h.near_of_hasPlaces hplaces)).1
    have hshiftPow : (10 : ℚ) ^ (-28 : ℤ) ≤ 10 ^ shift :=
      zpow_le_zpow_right₀ (by norm_num) (by omega)
    have hsurvives : ∀ {y : ℚ}, 1 ≤ y → 1 / 2 / 10 ^ 28 < y * 10 ^ shift := by
      intro y hy
      calc (1 : ℚ) / 2 / 10 ^ 28 < 1 * 10 ^ (-28 : ℤ) := by norm_num
        _ ≤ y * 10 ^ shift := by gcongr
    have hvalue : 5 ≤ value := by linarith
    exact iff_of_true (hsurvives (by linarith)) (hsurvives (by linarith))
  · rw [h.toRat_eq_of_hasPlaces (hplaces.mono (Nat.le_of_eq heq.symm))]

variable {fast : ℕ} {native asset : ℚ} {shift : ℤ} {amount : Decimal}

/-- An amount that is large enough to be written comes out as more than zero exactly if its shifted
    product does not round to zero. -/
theorem IsAmount.roundTo_pos_iff (h : IsAmount fast native asset shift amount)
    (hnative : HasPlaces maxScale native) (hasset : 0 < asset) (hshift : shift.natAbs ≤ 28)
    (hexact : 1 / 10 ^ 18 ≤ exactAmount fast native asset shift) :
    0 < (amount.roundTo maxFractionDigits).toRat ↔
    1 / 2 / 10 ^ 28 < fast * native * 10 ^ shift := by
  cases h with
  | @steps value shifted _ hvalue hshifted hamount =>
    have hplaces := hnative.natCast_mul fast
    have hpow : (0 : ℚ) < 10 ^ shift := by positivity
    rw [toRat_roundTo_pos_iff hamount.sign, ← lt_mul_zpow_iff hvalue hplaces hshift,
      ← hshifted.toRat_pos_iff]
    constructor
    · intro hwritten
      have hamountPos : 0 < amount.toRat := lt_trans (by norm_num) hwritten
      have hquotientPos : 0 < shifted.toRat / asset :=
        lt_trans (by norm_num) (hamount.toRat_pos_iff.1 hamountPos)
      exact (div_pos_iff_of_pos_right hasset).1 hquotientPos
    · intro hpositive
      have hproductError := (abs_le.1 (near_exactAmount shift hvalue hnative hasset.le)).1
      have hquotientError := (abs_le.1 (hamount.near (by positivity))).1
      -- What the shift leaves is at least two thirds of what it should be.
      have hkept : value.toRat * 10 ^ shift / asset ≤ 3 / 2 * (shifted.toRat / asset) := by
        rw [← mul_div_assoc]
        exact div_le_div_of_nonneg_right (hshifted.le_of_toRat_pos hpositive) hasset.le
      rw [maxFractionDigits]
      linarith

/-- An amount of at least one unit of the 18th digit after the point is written as more than zero
    exactly if its shifted product is above half a unit of the 28th digit. That is always so if the
    decimals of the asset are at least those of the gas price. -/
theorem denominate_pos_iff {assetDecimals nativeUnitDecimals : ℕ} {native asset : Decimal}
    {nativePrice assetPrice : Double} {text : String}
    (hnative : decimalPrice .native nativePrice = .ok native)
    (hasset : decimalPrice .asset assetPrice = .ok asset)
    (hexact : 1 / 10 ^ 18 ≤
      exactAmount fast native.toRat asset.toRat ((assetDecimals : ℤ) - nativeUnitDecimals))
    (h : denominate fast nativePrice assetPrice assetDecimals nativeUnitDecimals = .ok text) :
    (0 < numeralValue text.toList ↔
      1 / 2 / 10 ^ 28 < fast * native.toRat * 10 ^ ((assetDecimals : ℤ) - nativeUnitDecimals)) ∧
    (nativeUnitDecimals ≤ assetDecimals → 0 < numeralValue text.toList) := by
  obtain ⟨hshift, -, amount, hamount, rfl⟩ := (denominate_eq_ok_iff_isAmount hnative hasset).1 h
  have hplaces := (hasPlaces_toRat (negative_of_decimalPrice hnative)).mono native.scale_le
  have hpositive := toRat_pos_of_decimalPrice hasset
  have hiff := hamount.roundTo_pos_iff hplaces hpositive hshift hexact
  rw [numeralValue_amountText hamount.sign]
  refine ⟨hiff, fun hdecimals => hiff.2 ?_⟩
  have hnonneg : 0 ≤ fast * native.toRat := (hplaces.natCast_mul fast).nonneg
  have hproduct : 0 < fast * native.toRat := by
    refine lt_of_le_of_ne hnonneg fun hzero => ?_
    rw [exactAmount, ← hzero, zero_div, zero_mul] at hexact
    norm_num at hexact
  have hunit := (hplaces.natCast_mul fast).one_div_pow_le hproduct
  have hpow : (1 : ℚ) ≤ 10 ^ ((assetDecimals : ℤ) - nativeUnitDecimals) :=
    one_le_zpow₀ (by norm_num) (by omega)
  calc (1 : ℚ) / 2 / 10 ^ 28 < 1 / 10 ^ 28 := by norm_num
    _ ≤ fast * native.toRat := hunit
    _ ≤ fast * native.toRat * 10 ^ ((assetDecimals : ℤ) - nativeUnitDecimals) :=
      le_mul_of_one_le_right hnonneg hpow

/-- With one unit of the 28th digit left after the shift, the amount is not lost. -/
theorem denominate_pos_iff_last_place :
    decimalPrice .native 1e-10 = .ok { negative := false, coefficient := 1, scale := 10 } ∧
    decimalPrice .asset 1e-12 = .ok { negative := false, coefficient := 1, scale := 12 } ∧
    denominate 1 1e-10 1e-12 0 18 = .ok "0.0000000000000001" ∧
    (0 < numeralValue "0.0000000000000001".toList ↔
      (1 : ℚ) / 2 / 10 ^ 28 < 1 / 10 ^ 10 / 10 ^ 18) := by
  have hnative : decimalPrice .native 1e-10 =
      .ok { negative := false, coefficient := 1, scale := 10 } := by
    decide +kernel
  have hasset : decimalPrice .asset 1e-12 =
      .ok { negative := false, coefficient := 1, scale := 12 } := by
    decide +kernel
  have hamount : denominate 1 1e-10 1e-12 0 18 = .ok "0.0000000000000001" := by decide +kernel
  have hexact :
      1 / 10 ^ 18 ≤ exactAmount 1 (toRat { negative := false, coefficient := 1, scale := 10 })
      (toRat { negative := false, coefficient := 1, scale := 12 }) (((0 : ℕ) : ℤ) - (18 : ℕ)) := by
    norm_num [exactAmount, toRat, Rat.mkRat_eq_div]
  have hshifted : ((1 : ℕ) : ℚ) * toRat { negative := false, coefficient := 1, scale := 10 } *
      10 ^ (((0 : ℕ) : ℤ) - (18 : ℕ)) = 1 / 10 ^ 10 / 10 ^ 18 := by
    norm_num [toRat, Rat.mkRat_eq_div]
  have hpositive := (denominate_pos_iff hnative hasset hexact hamount).1
  rw [hshifted] at hpositive
  exact ⟨hnative, hasset, hamount, hpositive⟩

/-- Between equal prices an amount of 30 units of the 18th digit comes out as zero, since the shift
    cuts it away. -/
theorem denominate_vanishes_between_equal_prices :
    decimalPrice .native 1e-12 = .ok { negative := false, coefficient := 1, scale := 12 } ∧
    decimalPrice .asset 1e-12 = .ok { negative := false, coefficient := 1, scale := 12 } ∧
    (1 : ℚ) / 10 ^ 18 ≤ exactAmount 30 (1 / 10 ^ 12) (1 / 10 ^ 12) (0 - 18) ∧
    denominate 30 1e-12 1e-12 0 18 = .ok "0" ∧
    ¬ 0 < numeralValue "0".toList := by
  refine ⟨by decide +kernel, by decide +kernel, by norm_num [exactAmount], by decide +kernel,
    by decide +kernel⟩

end FeeOracle.Denomination
