import FeeOracle.Proofs.Decimal.Places
import Mathlib.Algebra.Order.Floor.Semiring
import Mathlib.Data.Nat.Find
import Mathlib.Data.Rat.Floor

/-!
# Keeping the places that fit

As many digits of a value are kept after the point as fit into a decimal number (`KeepsPlaces`), and
the rest rounds them half up (`cutAt`). A greater value never becomes a smaller number by that
(`IsReadOf.mono`), also where it has to do with one place fewer, and a number becomes itself
(`isReadOf_toRat`).
-/

namespace FeeOracle.Decimal

/-- Do the digits of the value fit with so many places, and with no more of them? -/
structure KeepsPlaces (value : ℚ) (places : ℕ) : Prop where
  fits : ⌊value * 10 ^ places⌋₊ < coefficientBound
  places_le : places ≤ maxScale
  full : places = maxScale ∨ coefficientBound ≤ ⌊value * 10 ^ (places + 1)⌋₊

/-- The coefficient that a number of units of the last place rounds to. If there is none that great,
    one place fewer is kept, and that rounds up once more. -/
def cutCoefficient (units : ℕ) : ℕ :=
  if units < coefficientBound then units else coefficientBound + 4

/-- The value with so many places, rounded half up. -/
def cutAt (value : ℚ) (places : ℕ) : ℚ :=
  cutCoefficient ⌊value * 10 ^ places + 1 / 2⌋₊ / 10 ^ places

/-- Is this what the value is read as? -/
structure IsReadOf (value : ℚ) (x : Decimal) : Prop where
  sign : x.negative = false
  cut : ∃ places, KeepsPlaces value places ∧ x.toRat = cutAt value places

section Cut

variable {value value' : ℚ} {places places' : ℕ}

theorem cutCoefficient_le (units : ℕ) : cutCoefficient units ≤ coefficientBound + 4 := by
  unfold cutCoefficient
  split <;> omega

theorem cutCoefficient_mono {units units' : ℕ} (h : units ≤ units') :
    cutCoefficient units ≤ cutCoefficient units' := by
  unfold cutCoefficient
  split <;> split <;> omega

/-- A value of which not all places are kept has a digit too many for one place more. -/
theorem KeepsPlaces.le_mul_pow (h : KeepsPlaces value places) (hplaces : places < maxScale) :
    (coefficientBound : ℚ) ≤ value * 10 ^ (places + 1) :=
  (Nat.le_floor_iff' (by decide)).1 (h.full.resolve_left hplaces.ne)

/-- So it rounds to a coefficient that is a tenth of the greatest one at least. -/
theorem KeepsPlaces.le_cutCoefficient (h : KeepsPlaces value places) (hplaces : places < maxScale) :
    coefficientBound + 4 ≤ 10 * cutCoefficient ⌊value * 10 ^ places + 1 / 2⌋₊ := by
  have hfull := h.le_mul_pow hplaces
  have htenth : coefficientBound + 4 = 10 * 7922816251426433759354395034 := by decide
  have hunits : 7922816251426433759354395034 ≤ ⌊value * 10 ^ places + 1 / 2⌋₊ := by
    have hbound : (coefficientBound : ℚ) + 4 = 10 * 7922816251426433759354395034 := by
      exact_mod_cast htenth
    rw [pow_succ, ← mul_assoc] at hfull
    apply Nat.le_floor
    push_cast
    linarith
  have hkept : cutCoefficient 7922816251426433759354395034 = 7922816251426433759354395034 :=
    if_pos (by decide)
  have hmono := cutCoefficient_mono hunits
  omega

/-- A greater value keeps no more places. -/
theorem KeepsPlaces.places_anti (h : KeepsPlaces value places) (h' : KeepsPlaces value' places')
    (hle : value ≤ value') : places' ≤ places := by
  by_contra hlt
  rw [Nat.not_le] at hlt
  have hfull := h.le_mul_pow (Nat.lt_of_lt_of_le hlt h'.places_le)
  have hpositive : 0 ≤ value' := by
    by_contra hnegative
    have : value * 10 ^ (places + 1) ≤ 0 :=
      mul_nonpos_of_nonpos_of_nonneg (by linarith) (by positivity)
    linarith [show (0 : ℚ) < coefficientBound by decide +kernel]
  have hgrows : (coefficientBound : ℚ) ≤ value' * 10 ^ places' :=
    calc (coefficientBound : ℚ) ≤ value * 10 ^ (places + 1) := hfull
      _ ≤ value' * 10 ^ (places + 1) := by gcongr
      _ ≤ value' * 10 ^ places' :=
        mul_le_mul_of_nonneg_left (pow_le_pow_right₀ (by norm_num) hlt) hpositive
  exact Nat.not_lt_of_le ((Nat.le_floor_iff' (by decide)).2 hgrows) h'.fits

/-- Cutting keeps the order of values. -/
theorem cutAt_mono (h : KeepsPlaces value places) (h' : KeepsPlaces value' places')
    (hle : value ≤ value') : cutAt value places ≤ cutAt value' places' := by
  rcases Nat.eq_or_lt_of_le (h.places_anti h' hle) with rfl | hlt
  · have hunits : ⌊value * 10 ^ places' + 1 / 2⌋₊ ≤ ⌊value' * 10 ^ places' + 1 / 2⌋₊ :=
      Nat.floor_mono (by gcongr)
    have hcut := cutCoefficient_mono hunits
    unfold cutAt
    gcongr
  · -- With a place fewer to keep, the greater value rounds to more than the smaller one can.
    have hsmall := cutCoefficient_le ⌊value * 10 ^ places + 1 / 2⌋₊
    have hgreat := h'.le_cutCoefficient (Nat.lt_of_lt_of_le hlt h.places_le)
    unfold cutAt
    generalize cutCoefficient ⌊value * 10 ^ places + 1 / 2⌋₊ = low at *
    generalize cutCoefficient ⌊value' * 10 ^ places' + 1 / 2⌋₊ = high at *
    have hten : (low : ℚ) ≤ high * 10 := by exact_mod_cast (by omega : low ≤ high * 10)
    calc (low : ℚ) / 10 ^ places ≤ low / 10 ^ (places' + 1) :=
          div_le_div_of_nonneg_left low.cast_nonneg (by positivity)
            (pow_le_pow_right₀ (by norm_num) hlt)
      _ ≤ high * 10 / 10 ^ (places' + 1) := by gcongr
      _ = high / 10 ^ places' := by rw [pow_succ, mul_div_mul_right _ _ (by norm_num)]

theorem IsReadOf.mono {x y : Decimal} (hx : IsReadOf value x) (hy : IsReadOf value' y)
    (hle : value ≤ value') : x.toRat ≤ y.toRat := by
  obtain ⟨places, hplaces, hvalue⟩ := hx.cut
  obtain ⟨places', hplaces', hvalue'⟩ := hy.cut
  rw [hvalue, hvalue']
  exact cutAt_mono hplaces hplaces' hle

/-- Where some places fit, the most that fit are kept. -/
theorem exists_keepsPlaces (hfits : ⌊value * 10 ^ places⌋₊ < coefficientBound)
    (hle : places ≤ maxScale) : ∃ most, places ≤ most ∧ KeepsPlaces value most := by
  let fits (places : ℕ) : Prop := ⌊value * 10 ^ places⌋₊ < coefficientBound
  refine ⟨Nat.findGreatest fits maxScale, Nat.le_findGreatest hle hfits, ?_,
    Nat.findGreatest_le _, ?_⟩
  · exact Nat.findGreatest_spec (P := fits) hle hfits
  · refine (Nat.eq_or_lt_of_le (Nat.findGreatest_le maxScale)).imp_right fun hlt => ?_
    exact Nat.le_of_not_lt (Nat.findGreatest_is_greatest (P := fits) (Nat.lt_succ_self _) hlt)

/-- A number is read as itself. -/
theorem isReadOf_toRat {x : Decimal} (hsign : x.negative = false) : IsReadOf x.toRat x := by
  have hself : ⌊x.toRat * 10 ^ x.scale⌋₊ < coefficientBound := by
    rw [toRat_mul_pow hsign, Nat.floor_natCast]
    exact x.coefficient_lt
  obtain ⟨places, hle, hkeeps⟩ := exists_keepsPlaces hself x.scale_le
  obtain ⟨units, hunits⟩ := (hasPlaces_toRat hsign).mono hle
  have hscaled : x.toRat * 10 ^ places = units := by rw [hunits, div_mul_cancel₀ _ (by positivity)]
  have hfits := hkeeps.fits
  rw [hscaled, Nat.floor_natCast] at hfits
  have hhalf : ⌊(units : ℚ) + 1 / 2⌋₊ = units := by
    rw [Nat.floor_eq_iff (by positivity)]
    constructor <;> linarith
  exact ⟨hsign, places, hkeeps, by rw [cutAt, hscaled, hhalf, cutCoefficient, if_pos hfits, hunits]⟩

end Cut

end FeeOracle.Decimal
