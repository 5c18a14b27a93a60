import FeeOracle.Proofs.Denomination.Accuracy
import FeeOracle.Proofs.Denomination.Loaded
import FeeOracle.Proofs.Denomination.Words

/-!
# Why a conversion fails

A conversion fails for the price of the chain's coin, for that of the asset, for the shift, or
because it overflows, and of several reasons the first one is reported (`FailsAsTold`). It overflows
if one of its three steps does. Rounding shifts the bound of a step by next to nothing: with a small
price of the asset the shifted product is large where it matters, and so what it loses in its last
place is little against what it keeps (`near_quotient`). Hence a conversion does not overflow as
long as its exact steps are below `79 · 10 ^ 27` (`exists_isAmount_of_lt`), and always does from
`8 · 10 ^ 28` on (`IsAmount.lt`).
-/

namespace FeeOracle.Denomination

open Decimal

section Overflow

variable {fast : ℕ} {native asset : ℚ} {shift : ℤ} {amount value shifted : Decimal}

/-- A quotient by a price is near to the exact amount, even after a shift to the right. -/
theorem near_quotient (hvalue : IsNearest (fast * native) value)
    (hshifted : IsNearest (value.toRat * 10 ^ shift) shifted) (hnative : HasPlaces maxScale native)
    (hasset : 1 / 10 ^ 28 ≤ asset) :
    |shifted.toRat / asset - exactAmount fast native asset shift| ≤
      1 / 2 + 3 * (exactAmount fast native asset shift / 10 ^ 28) := by
  have hpositive : 0 < asset := lt_of_lt_of_le (by norm_num) hasset
  have hvalueSign := toRat_nonneg hvalue.sign
  have hproductError := near_exactAmount shift hvalue hnative hpositive.le
  have hshiftError : |shifted.toRat / asset - value.toRat * 10 ^ shift / asset| ≤
      1 / 2 + value.toRat * 10 ^ shift / asset / 10 ^ 28 := by
    have hlast : 1 / 2 / 10 ^ 28 / asset ≤ 1 / 2 := by
      rw [div_le_iff₀ hpositive]
      linarith
    calc |shifted.toRat / asset - value.toRat * 10 ^ shift / asset|
        = |shifted.toRat - value.toRat * 10 ^ shift| / asset := by
          rw [← sub_div, abs_div, abs_of_pos hpositive]
      _ ≤ (1 / 2 / 10 ^ 28 + value.toRat * 10 ^ shift / 10 ^ 28) / asset := by
        have hnear := hshifted.near (by positivity)
        gcongr
      _ = 1 / 2 / 10 ^ 28 / asset + value.toRat * 10 ^ shift / asset / 10 ^ 28 := by
        rw [add_div, div_right_comm (value.toRat * 10 ^ shift)]
      _ ≤ 1 / 2 + value.toRat * 10 ^ shift / asset / 10 ^ 28 := by gcongr
  generalize exactAmount fast native asset shift = exact at *
  generalize value.toRat * 10 ^ shift / asset = ofProduct at *
  generalize shifted.toRat / asset = ofShifted at *
  rw [abs_le] at *
  constructor <;> linarith

/-- What is certainly below the bound of an overflow, and what is certainly beyond it. -/
theorem lt_overflowBound_lt :
    79 * 10 ^ 27 + 25 < overflowBound ∧ overflowBound + 25 < 8 * 10 ^ 28 := by
  decide +kernel

/-- No step overflows as long as the exact products and the exact amount are below
    `79 · 10 ^ 27`. -/
theorem exists_isAmount_of_lt (hnative : HasPlaces maxScale native) (hasset : 1 / 10 ^ 28 ≤ asset)
    (hproduct : fast * native < 79 * 10 ^ 27) (hshift : fast * native * 10 ^ shift < 79 * 10 ^ 27)
    (hexact : exactAmount fast native asset shift < 79 * 10 ^ 27) :
    ∃ amount, IsAmount fast native asset shift amount := by
  have hbound := lt_overflowBound_lt.1
  have hproductSign := (hnative.natCast_mul fast).nonneg
  obtain ⟨value, hvalue⟩ := (exists_isNearest_iff hproductSign).2 (by linarith)
  have hvalueSign := toRat_nonneg hvalue.sign
  have hvalueError := abs_sub_mul_le (hvalue.near_of_hasPlaces (hnative.natCast_mul fast))
    (show 0 ≤ (10 : ℚ) ^ shift by positivity)
  have hshiftedFits : value.toRat * 10 ^ shift < overflowBound := by
    have hclose := (abs_le.1 hvalueError).2
    linarith
  obtain ⟨shifted, hshifted⟩ := (exists_isNearest_iff (by positivity)).2 hshiftedFits
  have hshiftedSign := toRat_nonneg hshifted.sign
  have hquotientFits : shifted.toRat / asset < overflowBound := by
    have hclose := (abs_le.1 (near_quotient hvalue hshifted hnative hasset)).2
    linarith
  have hquotientSign : 0 ≤ shifted.toRat / asset :=
    div_nonneg hshiftedSign (le_trans (by norm_num) hasset)
  obtain ⟨amount, hamount⟩ := (exists_isNearest_iff hquotientSign).2 hquotientFits
  exact ⟨amount, .steps hvalue hshifted hamount⟩

/-- If no step overflows, the exact products and the exact amount are below `8 · 10 ^ 28`. -/
theorem IsAmount.lt (h : IsAmount fast native asset shift amount)
    (hnative : HasPlaces maxScale native) (hasset : 1 / 10 ^ 28 ≤ asset) :
    fast * native < 8 * 10 ^ 28 ∧ fast * native * 10 ^ shift < 8 * 10 ^ 28 ∧
      exactAmount fast native asset shift < 8 * 10 ^ 28 := by
  have hbound := lt_overflowBound_lt.2
  have hproductSign := (hnative.natCast_mul fast).nonneg
  have hpositive : 0 < asset := lt_of_lt_of_le (by norm_num) hasset
  cases h with
  | @steps value shifted _ hvalue hshifted hamount =>
    have hvalueSign := toRat_nonneg hvalue.sign
    have hshiftedSign := toRat_nonneg hshifted.sign
    refine ⟨?_, ?_, ?_⟩
    · have hfits := hvalue.lt_overflowBound hproductSign
      linarith
    · have hfits := hshifted.lt_overflowBound (by positivity)
      have hvalueError := abs_sub_mul_le (hvalue.near_of_hasPlaces (hnative.natCast_mul fast))
        (show 0 ≤ (10 : ℚ) ^ shift by positivity)
      have hclose := (abs_le.1 hvalueError).1
      linarith
    · have hfits := hamount.lt_overflowBound (by positivity)
      have hclose := (abs_le.1 (near_quotient hvalue hshifted hnative hasset)).1
      linarith

end Overflow

section Failures

variable {fast assetDecimals nativeUnitDecimals : ℕ} {native asset : Decimal}
  {nativePrice assetPrice price : Double} {role : PriceRole} {shift : ℤ}

/-- The price is finite, above zero, and becomes a decimal number that is not zero. -/
structure Converts (price : Double) (x : Decimal) : Prop where
  finite : price.isFinite = true
  positive : Double.lt 0 price = true
  decimal : Decimal.ofDouble? price = some x
  nonzero : x.isZero = false

/-- How the outcome of a conversion tells why it failed: a price that does not become a decimal
    number other than zero comes before everything else, that of the chain's coin first, and a shift
    of more than 28 digits comes next. Only then may the conversion overflow, or else it has an
    amount. -/
structure FailsAsTold (fast : ℕ) (nativePrice assetPrice : Double) (shift : ℤ)
    (outcome : Except ConversionError String) : Prop where
  nativeRefused : ∀ price, outcome = .error (.invalidPrice .native price) ↔
    nativePrice = price ∧ ∀ native, ¬ Converts nativePrice native
  assetRefused : ∀ price, outcome = .error (.invalidPrice .asset price) ↔
    (∃ native, Converts nativePrice native) ∧ assetPrice = price ∧ ∀ asset,
      ¬ Converts assetPrice asset
  shiftRefused : ∀ refused, outcome = .error (.shiftOutOfRange refused) ↔
    (∃ native, Converts nativePrice native) ∧ (∃ asset, Converts assetPrice asset) ∧
    shift = refused ∧
      28 < shift.natAbs
  converted :
    ∀ native asset, Converts nativePrice native → Converts assetPrice asset → shift.natAbs ≤ 28 →
    (outcome = .error .overflow ∨ ∃ text, outcome = .ok text) ∧
    (outcome = .error .overflow →
      79 * 10 ^ 27 ≤ fast * native.toRat ∨ 79 * 10 ^ 27 ≤ fast * native.toRat * 10 ^ shift ∨
        79 * 10 ^ 27 ≤ fast * native.toRat * 10 ^ shift / asset.toRat) ∧
    (8 * 10 ^ 28 ≤ fast * native.toRat ∨ 8 * 10 ^ 28 ≤ fast * native.toRat * 10 ^ shift ∨
        8 * 10 ^ 28 ≤ fast * native.toRat * 10 ^ shift / asset.toRat →
      outcome = .error .overflow)

theorem decimalPrice_eq_ok_iff_converts :
    decimalPrice role price = .ok native ↔ Converts price native := by
  rw [decimalPrice_eq_ok_iff, isUsablePrice, Bool.and_eq_true]
  constructor
  · rintro ⟨⟨hfinite, hpositive⟩, hdecimal, hnonzero⟩
    exact ⟨hfinite, hpositive, hdecimal, hnonzero⟩
  · intro h
    exact ⟨⟨h.finite, h.positive⟩, h.decimal, h.nonzero⟩

theorem Converts.decimalPrice_eq (h : Converts price native) (role : PriceRole) :
    decimalPrice role price = .ok native :=
  decimalPrice_eq_ok_iff_converts.2 h

/-- A price has no more than one decimal number. -/
theorem Converts.unique {other : Decimal} (h : Converts price native)
    (hother : Converts price other) : native = other :=
  Option.some.inj (h.decimal.symm.trans hother.decimal)

theorem decimalPrice_of_not_converts (h : ∀ x, ¬ Converts price x) :
    decimalPrice role price = .error (.invalidPrice role price) :=
  decimalPrice_eq_error_iff.2 ⟨rfl, fun x hx => h x (decimalPrice_eq_ok_iff_converts.1 hx)⟩

/-- A shift that is not in range is refused as it is. -/
theorem powerOfTen_of_lt (h : 28 < shift.natAbs) :
    powerOfTen shift = .error (.shiftOutOfRange shift) := by
  cases hpower : powerOfTen shift with
  | ok power =>
    have hrange := (powerOfTen_spec hpower).1
    omega
  | error cause =>
    dsimp only [powerOfTen] at hpower
    split at hpower
    · cases hpower
    · exact hpower.symm

/-- A price that converts is at least one unit of the last of 28 places. -/
theorem Converts.one_div_pow_le (h : Converts price asset) : 1 / 10 ^ 28 ≤ asset.toRat := by
  have hdecimal := h.decimalPrice_eq .asset
  have hplaces := (hasPlaces_toRat (negative_of_decimalPrice hdecimal)).mono asset.scale_le
  exact hplaces.one_div_pow_le (toRat_pos_of_decimalPrice hdecimal)

/-- With both prices converted and the shift in range a conversion has an amount, unless one of its
    steps overflows. -/
theorem denominate_of_converts (hfast : fast < coefficientBound)
    (hnative : Converts nativePrice native) (hasset : Converts assetPrice asset)
    (hshift : ((assetDecimals : ℤ) - nativeUnitDecimals).natAbs ≤ 28) :
    (∃ amount text,
      IsAmount fast native.toRat asset.toRat ((assetDecimals : ℤ) - nativeUnitDecimals) amount ∧
        denominate fast nativePrice assetPrice assetDecimals nativeUnitDecimals = .ok text) ∨
      (∀ amount, ¬ IsAmount fast native.toRat asset.toRat
        ((assetDecimals : ℤ) - nativeUnitDecimals) amount) ∧
        denominate fast nativePrice assetPrice assetDecimals nativeUnitDecimals =
          .error .overflow := by
  have hnativeDecimal := hnative.decimalPrice_eq .native
  have hassetDecimal := hasset.decimalPrice_eq .asset
  obtain ⟨power, hpower⟩ := exists_powerOfTen _ hshift
  have hsteps (amount : Decimal) : amount? fast native asset power = some amount ↔
      fast < coefficientBound ∧
        IsAmount fast native.toRat asset.toRat ((assetDecimals : ℤ) - nativeUnitDecimals) amount :=
    amount?_eq_some_iff_isAmount (negative_of_decimalPrice hnativeDecimal)
      (negative_of_decimalPrice hassetDecimal) hasset.nonzero hpower
  cases hamount : amount? fast native asset power with
  | some amount =>
    refine .inl ⟨amount, amountText amount, ((hsteps amount).1 hamount).2, ?_⟩
    exact denominate_eq_ok_iff.2
      ⟨native, asset, power, amount, hnativeDecimal, hassetDecimal, hpower, hamount, rfl⟩
  | none =>
    refine .inr ⟨fun amount h => ?_, ?_⟩
    · rw [(hsteps amount).2 ⟨hfast, h⟩] at hamount
      cases hamount
    · exact (denominate_eq_error_iff hpower).2
        (.inr ⟨native, hnativeDecimal, .inr ⟨asset, hassetDecimal, hamount, rfl⟩⟩)

namespace FailsAsTold

variable {outcome : Except ConversionError String}

theorem of_nativeRefused (hnative : ∀ native, ¬ Converts nativePrice native) :
    FailsAsTold fast nativePrice assetPrice shift (.error (.invalidPrice .native nativePrice)) where
  nativeRefused := by simpa using hnative
  assetRefused := by simp [hnative]
  shiftRefused := by simp [hnative]
  converted native _ h := absurd h (hnative native)

theorem of_assetRefused (hnative : Converts nativePrice native)
    (hasset : ∀ asset, ¬ Converts assetPrice asset) :
    FailsAsTold fast nativePrice assetPrice shift (.error (.invalidPrice .asset assetPrice)) where
  nativeRefused price := iff_of_false (by simp) fun h => h.2 native hnative
  assetRefused price := by
    have hsome : ∃ native, Converts nativePrice native := ⟨native, hnative⟩
    simp [hsome, hasset]
  shiftRefused := by simp [hasset]
  converted _ asset _ h := absurd h (hasset asset)

theorem of_shiftRefused (hnative : Converts nativePrice native) (hasset : Converts assetPrice asset)
    (hshift : 28 < shift.natAbs) :
    FailsAsTold fast nativePrice assetPrice shift (.error (.shiftOutOfRange shift)) where
  nativeRefused price := iff_of_false (by simp) fun h => h.2 native hnative
  assetRefused price := iff_of_false (by simp) fun h => h.2.2 asset hasset
  shiftRefused refused := by
    have hsomeNative : ∃ native, Converts nativePrice native := ⟨native, hnative⟩
    have hsomeAsset : ∃ asset, Converts assetPrice asset := ⟨asset, hasset⟩
    simp [hsomeNative, hsomeAsset, hshift]
  converted _ _ _ _ hrange := absurd hrange (Nat.not_le.2 hshift)

/-- The prices are in order, and so is the shift: then there is an amount unless a step
    overflows. -/
theorem of_converts (hnative : Converts nativePrice native) (hasset : Converts assetPrice asset)
    (hshift : shift.natAbs ≤ 28)
    (h : (∃ amount text, IsAmount fast native.toRat asset.toRat shift amount ∧ outcome = .ok text) ∨
      (∀ amount, ¬ IsAmount fast native.toRat asset.toRat shift amount) ∧
        outcome = .error .overflow) :
    FailsAsTold fast nativePrice assetPrice shift outcome where
  nativeRefused price := by
    refine iff_of_false ?_ fun h => h.2 native hnative
    rcases h with ⟨_, _, -, rfl⟩ | ⟨-, rfl⟩ <;> simp
  assetRefused price := by
    refine iff_of_false ?_ fun h => h.2.2 asset hasset
    rcases h with ⟨_, _, -, rfl⟩ | ⟨-, rfl⟩ <;> simp
  shiftRefused refused := by
    refine iff_of_false ?_ fun h => absurd h.2.2.2 (Nat.not_lt.2 hshift)
    rcases h with ⟨_, _, -, rfl⟩ | ⟨-, rfl⟩ <;> simp
  converted other otherAsset hother hotherAsset _ := by
    obtain rfl := hnative.unique hother
    obtain rfl := hasset.unique hotherAsset
    have hnativeDecimal := hnative.decimalPrice_eq .native
    have hplaces := (hasPlaces_toRat (negative_of_decimalPrice hnativeDecimal)).mono native.scale_le
    rw [← exactAmount_eq_div]
    rcases h with ⟨amount, text, hamount, rfl⟩ | ⟨hnone, rfl⟩
    · obtain ⟨hproduct, hshifted, hexact⟩ := hamount.lt hplaces hasset.one_div_pow_le
      refine ⟨.inr ⟨text, rfl⟩, by simp, ?_⟩
      rintro (hlarge | hlarge | hlarge) <;> linarith
    · refine ⟨.inl rfl, fun _ => ?_, fun _ => rfl⟩
      by_contra hsmall
      simp only [not_or, not_le] at hsmall
      obtain ⟨amount, hamount⟩ :=
        exists_isAmount_of_lt hplaces hasset.one_div_pow_le hsmall.1 hsmall.2.1 hsmall.2.2
      exact hnone amount hamount

end FailsAsTold

/-- The outcome of a conversion tells why it failed, as long as what is converted is in range. -/
theorem failsAsTold_of_lt (hfast : fast < coefficientBound) :
    FailsAsTold fast nativePrice assetPrice ((assetDecimals : ℤ) - nativeUnitDecimals)
      (denominate fast nativePrice assetPrice assetDecimals nativeUnitDecimals) := by
  by_cases hnative : ∃ native, Converts nativePrice native
  · obtain ⟨native, hnative⟩ := hnative
    have hnativeDecimal := hnative.decimalPrice_eq .native
    by_cases hasset : ∃ asset, Converts assetPrice asset
    · obtain ⟨asset, hasset⟩ := hasset
      have hassetDecimal := hasset.decimalPrice_eq .asset
      rcases Nat.lt_or_ge 28 ((assetDecimals : ℤ) - nativeUnitDecimals).natAbs with hlarge | hrange
      · simp only [denominate, hnativeDecimal, hassetDecimal, powerOfTen_of_lt hlarge]
        exact .of_shiftRefused hnative hasset hlarge
      · exact .of_converts hnative hasset hrange
          (denominate_of_converts hfast hnative hasset hrange)
    · simp only [denominate, hnativeDecimal, decimalPrice_of_not_converts (not_exists.1 hasset)]
      exact .of_assetRefused hnative (not_exists.1 hasset)
  · simp only [denominate, decimalPrice_of_not_converts (not_exists.1 hnative)]
    exact .of_nativeRefused (not_exists.1 hnative)

end Failures

/-- A conversion of a number of 64 bits with decimals of 32 bits each tells why it fails, and none
    of the numbers on the way to the power of ten leaves the words that they are computed in. -/
theorem denominate_failsAsTold (fast : UInt64) (nativePrice assetPrice : Double)
    (assetDecimals nativeUnitDecimals : UInt32) :
    FailsAsTold fast.toNat nativePrice assetPrice
      ((assetDecimals.toNat : ℤ) - nativeUnitDecimals.toNat)
      (denominate fast.toNat nativePrice assetPrice assetDecimals.toNat nativeUnitDecimals.toNat) ∧
    (wordShift assetDecimals nativeUnitDecimals).toInt =
      (assetDecimals.toNat : ℤ) - nativeUnitDecimals.toNat ∧
    wordPowerOfTen (wordShift assetDecimals nativeUnitDecimals) =
      powerOfTen ((assetDecimals.toNat : ℤ) - nativeUnitDecimals.toNat) := by
  have hfast : fast.toNat < coefficientBound := Nat.lt_trans fast.toNat_lt (by decide +kernel)
  exact ⟨failsAsTold_of_lt hfast, toInt_wordShift assetDecimals nativeUnitDecimals,
    wordPowerOfTen_wordShift assetDecimals nativeUnitDecimals⟩

/-- A product that is still in range overflows when it is divided by a small price, and a price that
    is too small for a decimal number is reported before a shift that is out of range. -/
theorem denominate_failsAsTold_small_price :
    denominate 18446744073709551615 1000000000 1e-12 9 9 = .error .overflow ∧
    ((79 : ℚ) * 10 ^ 27 ≤ 18446744073709551615 * 10 ^ 9 ∨
      (79 : ℚ) * 10 ^ 27 ≤ 18446744073709551615 * 10 ^ 9 / (1 / 10 ^ 12)) ∧
    denominate 30 1 1e-30 4294967295 0 = .error (.invalidPrice .asset 1e-30) ∧
    (∀ asset, ¬ Converts 1e-30 asset) := by
  have hnative : Converts 1000000000 { negative := false, coefficient := 1000000000, scale := 0 } :=
    ⟨by decide +kernel, by decide +kernel, by decide +kernel, by decide +kernel⟩
  have hasset : Converts 1e-12 { negative := false, coefficient := 1, scale := 12 } :=
    ⟨by decide +kernel, by decide +kernel, by decide +kernel, by decide +kernel⟩
  have hoverflow : denominate 18446744073709551615 1000000000 1e-12 9 9 = .error .overflow := by
    decide +kernel
  have hrefused : denominate 30 1 1e-30 4294967295 0 = .error (.invalidPrice .asset 1e-30) := by
    decide +kernel
  have htold :=
    (denominate_failsAsTold 18446744073709551615 1000000000 1e-12 9 9).1.converted
      _ _ hnative hasset
    (by decide)
  have hsmall := ((denominate_failsAsTold 30 1 1e-30 4294967295 0).1.assetRefused 1e-30).1 hrefused
  refine ⟨hoverflow, ?_, hrefused, hsmall.2.2⟩
  have hsteps := htold.2.1 hoverflow
  norm_num [toRat, Rat.mkRat_eq_div] at hsteps ⊢

end FeeOracle.Denomination
