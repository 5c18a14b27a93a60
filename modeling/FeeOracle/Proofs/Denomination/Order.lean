import FeeOracle.Proofs.Denomination.Steps

/-!
# Greater inputs, greater amounts

Each step of a conversion rounds to a number of places that depends on its result, but rounding
keeps the order of values all the same (`IsNearest.mono`). So a conversion does not decrease when
more is converted, at a higher price of the chain's coin, at a lower price of the asset, or with a
greater shift (`IsAmount.mono`), and where the greater conversion does not overflow, neither does
the smaller one (`IsAmount.exists_of_le`).
-/

namespace FeeOracle.Denomination

open Decimal Text

section Steps

variable {fast fast' : ℕ} {native native' asset asset' : ℚ} {shift shift' : ℤ}
  {amount amount' : Decimal}

/-- Where greater inputs have an amount, smaller ones have one too, which is not greater. -/
theorem IsAmount.exists_of_le (h : IsAmount fast' native' asset' shift' amount')
    (hnative : 0 ≤ native) (hasset : 0 < asset') (hfast : fast ≤ fast')
    (hnatives : native ≤ native') (hassets : asset' ≤ asset) (hshifts : shift ≤ shift') :
    ∃ amount, IsAmount fast native asset shift amount ∧ amount.toRat ≤ amount'.toRat := by
  have hpow : (10 : ℚ) ^ shift ≤ 10 ^ shift' := zpow_le_zpow_right₀ (by norm_num) hshifts
  have hasset' := hasset.trans_le hassets
  cases h with
  | @steps value' shifted' _ hvalue' hshifted' hamount' =>
    have hvalueSign' := toRat_nonneg hvalue'.sign
    have hshiftedSign' := toRat_nonneg hshifted'.sign
    have hproduct : (fast : ℚ) * native ≤ fast' * native' := by gcongr
    obtain ⟨value, hvalue, hvalues⟩ := hvalue'.exists_of_le (by positivity) hproduct
    have hvalueSign := toRat_nonneg hvalue.sign
    have hshift : value.toRat * 10 ^ shift ≤ value'.toRat * 10 ^ shift' := by gcongr
    obtain ⟨shifted, hshifted, hshifteds⟩ := hshifted'.exists_of_le (by positivity) hshift
    have hshiftedSign := toRat_nonneg hshifted.sign
    have hquotient : shifted.toRat / asset ≤ shifted'.toRat / asset' := by gcongr
    obtain ⟨amount, hamount, hamounts⟩ := hamount'.exists_of_le (by positivity) hquotient
    exact ⟨amount, .steps hvalue hshifted hamount, hamounts⟩

theorem IsAmount.unique (h : IsAmount fast native asset shift amount)
    (h' : IsAmount fast native asset shift amount') (hnative : 0 ≤ native) (hasset : 0 < asset) :
    amount = amount' := by
  cases h with
  | steps hvalue hshifted hamount =>
    cases h' with
    | steps hvalue' hshifted' hamount' =>
      have hvalueSign := toRat_nonneg hvalue.sign
      have hshiftedSign := toRat_nonneg hshifted.sign
      obtain rfl := hvalue.unique hvalue' (by positivity)
      obtain rfl := hshifted.unique hshifted' (by positivity)
      exact hamount.unique hamount' (by positivity)

/-- Greater inputs do not lead to a smaller amount. -/
theorem IsAmount.mono (h : IsAmount fast native asset shift amount)
    (h' : IsAmount fast' native' asset' shift' amount') (hnative : 0 ≤ native) (hasset : 0 < asset')
    (hfast : fast ≤ fast') (hnatives : native ≤ native') (hassets : asset' ≤ asset)
    (hshifts : shift ≤ shift') : amount.toRat ≤ amount'.toRat := by
  obtain ⟨found, hfound, hle⟩ := h'.exists_of_le hnative hasset hfast hnatives hassets hshifts
  rwa [h.unique hfound hnative (hasset.trans_le hassets)]

end Steps

/-- The text of a greater amount writes no smaller number. -/
theorem numeralValue_amountText_mono {amount amount' : Decimal} (h : amount.negative = false)
    (h' : amount'.negative = false) (hle : amount.toRat ≤ amount'.toRat) :
    numeralValue (amountText amount).toList ≤ numeralValue (amountText amount').toList := by
  rw [numeralValue_amountText h, numeralValue_amountText h']
  exact roundTo_mono h h' hle

/-- A conversion of less succeeds if that of more does, and writes no greater number. Where two
    conversions of the same number succeed, a price of the chain's coin that is no lower, a price of
    the asset that is no higher, at least as many decimals of the asset and at most as many of the
    gas price, one of these or all together, do not make the number smaller that is written. -/
theorem denominate_mono :
    (∀ (fast fast' : ℕ) (nativePrice assetPrice : Double)
        (assetDecimals nativeUnitDecimals : ℕ) (text' : String),
      fast ≤ fast' →
      denominate fast' nativePrice assetPrice assetDecimals nativeUnitDecimals = .ok text' →
      ∃ text, denominate fast nativePrice assetPrice assetDecimals nativeUnitDecimals = .ok text ∧
        numeralValue text.toList ≤ numeralValue text'.toList) ∧
    ∀ (fast : ℕ) (nativePrice nativePrice' assetPrice assetPrice' : Double)
        (assetDecimals assetDecimals' nativeUnitDecimals nativeUnitDecimals' : ℕ)
        (native native' asset asset' : Decimal) (text text' : String),
      decimalPrice .native nativePrice = .ok native →
      decimalPrice .native nativePrice' = .ok native' →
      decimalPrice .asset assetPrice = .ok asset → decimalPrice .asset assetPrice' = .ok asset' →
      native.toRat ≤ native'.toRat → asset'.toRat ≤ asset.toRat →
      assetDecimals ≤ assetDecimals' → nativeUnitDecimals' ≤ nativeUnitDecimals →
      denominate fast nativePrice assetPrice assetDecimals nativeUnitDecimals = .ok text →
      denominate fast nativePrice' assetPrice' assetDecimals' nativeUnitDecimals' = .ok text' →
      numeralValue text.toList ≤ numeralValue text'.toList := by
  constructor
  · intro fast fast' nativePrice assetPrice assetDecimals nativeUnitDecimals text' hfast h
    obtain ⟨native, asset, -, -, hnative, hasset, -⟩ := denominate_eq_ok_iff.1 h
    obtain ⟨hshift, hfits, amount', hamount', rfl⟩ :=
      (denominate_eq_ok_iff_isAmount hnative hasset).1 h
    obtain ⟨amount, hamount, hle⟩ := hamount'.exists_of_le (toRat_pos_of_decimalPrice hnative).le
      (toRat_pos_of_decimalPrice hasset) hfast le_rfl le_rfl le_rfl
    exact ⟨amountText amount,
      (denominate_eq_ok_iff_isAmount hnative hasset).2
        ⟨hshift, Nat.lt_of_le_of_lt hfast hfits, amount, hamount, rfl⟩,
      numeralValue_amountText_mono hamount.sign hamount'.sign hle⟩
  · intro fast nativePrice nativePrice' assetPrice assetPrice' assetDecimals assetDecimals'
      nativeUnitDecimals
      nativeUnitDecimals' native native' asset asset' text text' hnative hnative' hasset hasset'
        hnatives hassets
      hassetDecimals hnativeDecimals h h'
    obtain ⟨-, -, amount, hamount, rfl⟩ := (denominate_eq_ok_iff_isAmount hnative hasset).1 h
    obtain ⟨-, -, amount', hamount', rfl⟩ := (denominate_eq_ok_iff_isAmount hnative' hasset').1 h'
    exact numeralValue_amountText_mono hamount.sign hamount'.sign
      (hamount.mono hamount' (toRat_pos_of_decimalPrice hnative).le
        (toRat_pos_of_decimalPrice hasset') le_rfl hnatives
        hassets (by omega))

/-- One unit instead of two of a third, and then half the price of the coin, more for the asset and
    a smaller shift. -/
theorem denominate_mono_thirds :
    denominate 2 1 3 9 9 = .ok "0.666666666666666667" ∧
    (∃ text, denominate 1 1 3 9 9 = .ok text ∧
      numeralValue text.toList ≤ numeralValue "0.666666666666666667".toList) ∧
    denominate 1 0.5 3 9 10 = .ok "0.016666666666666667" ∧ denominate 1 1 2 10 9 = .ok "5" ∧
    numeralValue "0.016666666666666667".toList ≤ numeralValue "5".toList := by
  have htwo : denominate 2 1 3 9 9 = .ok "0.666666666666666667" := by decide +kernel
  have hlow : denominate 1 0.5 3 9 10 = .ok "0.016666666666666667" := by decide +kernel
  have hhigh : denominate 1 1 2 10 9 = .ok "5" := by decide +kernel
  have hhalf : decimalPrice .native 0.5 =
      .ok { negative := false, coefficient := 5, scale := 1 } := by decide +kernel
  have hone : decimalPrice .native 1 = .ok { negative := false, coefficient := 1, scale := 0 } := by
    decide +kernel
  have hthree : decimalPrice .asset 3 =
      .ok { negative := false, coefficient := 3, scale := 0 } := by decide +kernel
  have hcheap : decimalPrice .asset 2 =
      .ok { negative := false, coefficient := 2, scale := 0 } := by decide +kernel
  refine ⟨htwo, denominate_mono.1 1 2 1 3 9 9 _ (by decide) htwo, hlow, hhigh, ?_⟩
  exact denominate_mono.2 1 0.5 1 3 2 9 10 10 9 _ _ _ _ _ _ hhalf hone hthree hcheap
    (by norm_num [toRat, Rat.mkRat_eq_div]) (by norm_num [toRat, Rat.mkRat_eq_div]) (by decide)
      (by decide) hlow hhigh

end FeeOracle.Denomination
