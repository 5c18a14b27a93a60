import FeeOracle.Proofs.Decimal.Nearest
import FeeOracle.Proofs.Denomination.Amount
import Mathlib.Algebra.Order.Field.Power

/-!
# The steps of a conversion

A conversion multiplies by the price of the chain's coin, shifts, and divides by the price of the
asset. Each of these steps takes the decimal number nearest to its exact result (`IsAmount`), and
the amount that they lead to is rounded once more to be written. A conversion succeeds exactly if
each step has a result and the shift is in range (`denominate_eq_ok_iff_isAmount`), and so what is
true of its text follows from what is true of rounding.
-/

namespace FeeOracle.Denomination

open Decimal

/-- The amount as it would be without any rounding. -/
def exactAmount (fast : ℕ) (native asset : ℚ) (shift : ℤ) : ℚ := fast * native / asset * 10 ^ shift

/-- An amount is found in three steps, each of which takes the nearest decimal number. -/
inductive IsAmount (fast : ℕ) (native asset : ℚ) (shift : ℤ) : Decimal → Prop
  | steps {value shifted amount : Decimal} (hvalue : IsNearest (fast * native) value)
      (hshifted : IsNearest (value.toRat * 10 ^ shift) shifted)
      (hamount : IsNearest (shifted.toRat / asset) amount) : IsAmount fast native asset shift amount

variable {fast assetDecimals nativeUnitDecimals : ℕ} {shift : ℤ}
  {native asset power amount : Decimal} {nativePrice assetPrice : Double} {text : String}

theorem IsAmount.sign {native asset : ℚ} (h : IsAmount fast native asset shift amount) :
    amount.negative = false := by
  cases h with
  | steps hvalue hshifted hamount => exact hamount.sign

theorem toRat_pos_of_decimalPrice {role : PriceRole} {price : Double} {x : Decimal}
    (h : decimalPrice role price = .ok x) : 0 < x.toRat :=
  (toRat_pos_iff_isZero (negative_of_decimalPrice h)).2 (decimalPrice_eq_ok_iff.1 h).2.2

/-- The role of a price matters only for the report that it cannot be used. -/
theorem decimalPrice_ok_of_ok {role other : PriceRole} {price : Double} {x : Decimal}
    (h : decimalPrice role price = .ok x) : decimalPrice other price = .ok x :=
  decimalPrice_eq_ok_iff.2 (decimalPrice_eq_ok_iff.1 h)

/-- A power of ten is exact, and its exponent is in range. -/
theorem powerOfTen_spec (h : powerOfTen shift = .ok power) :
    shift.natAbs ≤ 28 ∧ power.toRat = 10 ^ shift := by
  have hsign := negative_of_powerOfTen h
  have hfound :
      (if 0 ≤ shift then of? false (10 ^ min shift.natAbs 29) 0 else of? false 1 shift.natAbs) =
      some power := by
    dsimp only [powerOfTen] at h
    split at h
    next x hx => rw [hx, Except.ok.inj h]
    next => cases h
  split at hfound
  next hnonneg =>
    obtain ⟨digits, rfl⟩ := Int.eq_ofNat_of_zero_le hnonneg
    obtain ⟨-, hcoefficient, hscale⟩ := of?_eq_some_iff.1 hfound
    rw [Int.natAbs_natCast] at hcoefficient ⊢
    have hdigits : min digits 29 < 29 := by
      have hfits := power.coefficient_lt
      have hbound : 2 ^ (96 : Nat) < 10 ^ 29 := by decide
      rw [hcoefficient] at hfits
      exact (Nat.pow_lt_pow_iff_right (by decide : 1 < 10)).1 (Nat.lt_trans hfits hbound)
    have hall : min digits 29 = digits := by omega
    refine ⟨by omega, ?_⟩
    rw [toRat_eq_div hsign, hcoefficient, hscale, hall]
    simp
  next hneg =>
    obtain ⟨-, hcoefficient, hscale⟩ := of?_eq_some_iff.1 hfound
    have hshift : shift = -(shift.natAbs : ℤ) := by omega
    refine ⟨hscale ▸ power.scale_le, ?_⟩
    rw [toRat_eq_div hsign, hcoefficient, hscale, hshift, zpow_neg, zpow_natCast, Int.natAbs_neg,
      Int.natAbs_natCast]
    simp

theorem toRat_of_ofNat? {n : ℕ} {x : Decimal} (h : ofNat? n = some x) : x.toRat = n := by
  obtain ⟨hsign, hcoefficient, hscale⟩ := of?_eq_some_iff.1 h
  rw [toRat_eq_div hsign, hcoefficient, hscale]
  simp

theorem exists_ofNat?_iff {n : ℕ} : (∃ x, ofNat? n = some x) ↔ n < coefficientBound := by
  rw [← Option.isSome_iff_exists, ← not_iff_not, Option.not_isSome_iff_eq_none, Nat.not_lt]
  exact of?_eq_none_iff (Nat.zero_le _)

/-- An amount is computed by its three steps. -/
theorem amount?_eq_some_iff_isAmount (hnative : native.negative = false)
    (hasset : asset.negative = false) (hnonzero : asset.isZero = false)
    (hpower : powerOfTen shift = .ok power) :
    amount? fast native asset power = some amount ↔
      fast < coefficientBound ∧ IsAmount fast native.toRat asset.toRat shift amount := by
  have hsign := negative_of_powerOfTen hpower
  have hshift := (powerOfTen_spec hpower).2
  rw [amount?_eq_some_iff, ← exists_ofNat?_iff]
  constructor
  · rintro ⟨count, value, shifted, hcount, hvalue, hshifted, hamount⟩
    have hcountSign := negative_of_of? hcount rfl
    rw [mul?_eq_some_iff hcountSign hnative, toRat_of_ofNat? hcount] at hvalue
    rw [mul?_eq_some_iff hvalue.sign hsign, hshift] at hshifted
    rw [div?_eq_some_iff hshifted.sign hasset hnonzero] at hamount
    exact ⟨⟨count, hcount⟩, .steps hvalue hshifted hamount⟩
  · rintro ⟨⟨count, hcount⟩, @⟨value, shifted, _, hvalue, hshifted, hamount⟩⟩
    have hcountSign := negative_of_of? hcount rfl
    refine ⟨count, value, shifted, hcount, ?_, ?_, ?_⟩
    · rwa [mul?_eq_some_iff hcountSign hnative, toRat_of_ofNat? hcount]
    · rwa [mul?_eq_some_iff hvalue.sign hsign, hshift]
    · rwa [div?_eq_some_iff hshifted.sign hasset hnonzero]

/-- With both prices in order, a conversion succeeds if the shift is in range and each step has a
    result. -/
theorem denominate_eq_ok_iff_isAmount (hnative : decimalPrice .native nativePrice = .ok native)
    (hasset : decimalPrice .asset assetPrice = .ok asset) :
    denominate fast nativePrice assetPrice assetDecimals nativeUnitDecimals = .ok text ↔
      ((assetDecimals : ℤ) - nativeUnitDecimals).natAbs ≤ 28 ∧ fast < coefficientBound ∧
        ∃ amount,
          IsAmount fast native.toRat asset.toRat ((assetDecimals : ℤ) - nativeUnitDecimals) amount ∧
          amountText amount = text := by
  have hnativeSign := negative_of_decimalPrice hnative
  have hassetSign := negative_of_decimalPrice hasset
  have hnonzero := (decimalPrice_eq_ok_iff.1 hasset).2.2
  rw [denominate_eq_ok_iff]
  constructor
  · rintro ⟨_, _, power, amount, hnative', hasset', hpower, hamount, htext⟩
    obtain rfl := Except.ok.inj (hnative'.symm.trans hnative)
    obtain rfl := Except.ok.inj (hasset'.symm.trans hasset)
    obtain ⟨hfast, hsteps⟩ :=
      (amount?_eq_some_iff_isAmount hnativeSign hassetSign hnonzero hpower).1 hamount
    exact ⟨(powerOfTen_spec hpower).1, hfast, amount, hsteps, htext⟩
  · rintro ⟨hshift, hfast, amount, hsteps, htext⟩
    obtain ⟨power, hpower⟩ := exists_powerOfTen _ hshift
    exact ⟨native, asset, power, amount, hnative, hasset, hpower,
      (amount?_eq_some_iff_isAmount hnativeSign hassetSign hnonzero hpower).2 ⟨hfast, hsteps⟩,
      htext⟩

end FeeOracle.Denomination
