import FeeOracle.Proofs.Decimal.Numeral
import FeeOracle.Proofs.Rounding
import Mathlib.Tactic.Positivity

/-!
# Values and places

A decimal number that is not negative is worth its coefficient over a power of ten, so its value has
as many digits after the point as its scale says (`hasPlaces_toRat`). Rounding it at a place takes
the nearest whole number of units of that place (`exists_roundTo_eq`). Hence the order of values is
kept, a value that has no digits beyond the place is left alone, and nothing above half a unit is
lost.
-/

namespace FeeOracle.Decimal

/-- Is this the value of a decimal number? -/
def IsRepresentable (value : ℚ) : Prop := ∃ x : Decimal, x.toRat = value

/-- Has this number, which is not negative, at most `places` digits after the point? -/
def HasPlaces (places : ℕ) (value : ℚ) : Prop := ∃ n : ℕ, value = n / 10 ^ places

section Value

variable {x : Decimal} {value : ℚ} {places : ℕ}

theorem toRat_mul_pow (h : x.negative = false) : x.toRat * 10 ^ x.scale = x.coefficient := by
  rw [toRat_eq_div h, div_mul_cancel₀ _ (by positivity)]

theorem toRat_nonneg (h : x.negative = false) : 0 ≤ x.toRat := by
  rw [toRat_eq_div h]
  positivity

theorem toRat_pos_iff (h : x.negative = false) : 0 < x.toRat ↔ 0 < x.coefficient := by
  rw [toRat_eq_div h, div_pos_iff_of_pos_right (by positivity)]
  exact Nat.cast_pos

theorem toRat_pos_iff_isZero (h : x.negative = false) : 0 < x.toRat ↔ x.isZero = false := by
  rw [toRat_pos_iff h, isZero, beq_eq_false_iff_ne, Nat.pos_iff_ne_zero]

theorem abs_toRat (x : Decimal) : |x.toRat| = x.coefficient / 10 ^ x.scale := by
  have hnonneg : (0 : ℚ) ≤ x.coefficient / 10 ^ x.scale := by positivity
  cases hsign : x.negative with
  | false => rw [toRat_eq_div hsign, abs_of_nonneg hnonneg]
  | true =>
    have hvalue : x.toRat = -(x.coefficient / 10 ^ x.scale) := by
      simp [toRat, hsign, Rat.mkRat_eq_div, neg_div]
    rw [hvalue, abs_neg, abs_of_nonneg hnonneg]

theorem hasPlaces_toRat (h : x.negative = false) : HasPlaces x.scale x.toRat :=
  ⟨x.coefficient, toRat_eq_div h⟩

theorem hasPlaces_natCast (n places : ℕ) : HasPlaces places n :=
  ⟨n * 10 ^ places, by
    rw [Nat.cast_mul, Nat.cast_pow, Nat.cast_ofNat, mul_div_cancel_right₀ _ (by positivity)]⟩

theorem HasPlaces.nonneg (h : HasPlaces places value) : 0 ≤ value := by
  obtain ⟨n, rfl⟩ := h
  positivity

theorem HasPlaces.mono {more : ℕ} (h : HasPlaces places value) (hle : places ≤ more) :
    HasPlaces more value := by
  obtain ⟨n, rfl⟩ := h
  obtain ⟨extra, rfl⟩ := Nat.exists_eq_add_of_le hle
  refine ⟨n * 10 ^ extra, ?_⟩
  push_cast
  rw [pow_add, mul_div_mul_right _ _ (by positivity)]

theorem HasPlaces.natCast_mul (h : HasPlaces places value) (n : ℕ) :
    HasPlaces places (n * value) := by
  obtain ⟨m, rfl⟩ := h
  refine ⟨n * m, ?_⟩
  rw [Nat.cast_mul, mul_div_assoc]

/-- A number with few digits after the point is at least a unit of the last of them, unless it is
    zero. -/
theorem HasPlaces.one_div_pow_le (h : HasPlaces places value) (hpositive : 0 < value) :
    1 / 10 ^ places ≤ value := by
  obtain ⟨n, rfl⟩ := h
  have hone : (1 : ℚ) ≤ n := by
    have hn : (0 : ℚ) < n := (div_pos_iff_of_pos_right (by positivity)).1 hpositive
    exact_mod_cast hn
  gcongr

/-- A value that is not negative is represented by a coefficient over a power of ten. -/
theorem IsRepresentable.exists_eq_div (h : IsRepresentable value) (hnonneg : 0 ≤ value) :
    ∃ coefficient scale : ℕ, coefficient < coefficientBound ∧ scale ≤ maxScale ∧
      value = coefficient / 10 ^ scale := by
  obtain ⟨x, rfl⟩ := h
  refine ⟨x.coefficient, x.scale, x.coefficient_lt, x.scale_le, ?_⟩
  rw [← abs_toRat, abs_of_nonneg hnonneg]

end Value

section RoundTo

variable {x y : Decimal} {places : ℕ}

@[simp] theorem negative_roundTo (h : x.negative = false) (places : ℕ) :
    (x.roundTo places).negative = false := by
  simp [roundTo, h]

/-- Rounding at a place takes the nearest whole number of its units, the even one of two. -/
theorem exists_roundTo_eq (h : x.negative = false) (places : ℕ) :
    ∃ n : ℕ,
      IsNearestEven (x.toRat * 10 ^ places) n ∧ (x.roundTo places).toRat = n / 10 ^ places := by
  have hvalue : (x.roundTo places).toRat = x.roundedCoefficient places / 10 ^ min places x.scale :=
    toRat_eq_div (negative_roundTo h places)
  rcases Nat.le_total x.scale places with hkept | hcut
  · -- There is nothing to round.
    have hcoefficient : x.roundedCoefficient places = x.coefficient := by
      rw [roundedCoefficient, Nat.sub_eq_zero_of_le hkept]
      simpa using halfEven_mul_self x.coefficient Nat.one_pos
    obtain ⟨n, hn⟩ := (hasPlaces_toRat h).mono hkept
    refine ⟨n, ?_, ?_⟩
    · rw [hn, div_mul_cancel₀ _ (by positivity)]
      exact .natCast n
    · rw [← hn, hvalue, Nat.min_eq_right hkept, hcoefficient, toRat_eq_div h]
  · have hpow : (10 : ℚ) ^ x.scale = 10 ^ places * 10 ^ (x.scale - places) := by
      rw [← pow_add, Nat.add_sub_cancel' hcut]
    have hround := isNearestEven_halfEven x.coefficient
      (Nat.pow_pos (n := x.scale - places) (by decide : 0 < 10))
    push_cast at hround
    refine ⟨x.roundedCoefficient places, ?_, by rw [hvalue, Nat.min_eq_left hcut]⟩
    rw [toRat_eq_div h, hpow, div_mul_eq_div_div_swap, div_mul_cancel₀ _ (by positivity)]
    exact hround

/-- The error is at most half a unit of the place. -/
theorem near_roundTo (h : x.negative = false) (places : ℕ) :
    |(x.roundTo places).toRat - x.toRat| ≤ 1 / 2 / 10 ^ places := by
  have hpow : (0 : ℚ) < 10 ^ places := by positivity
  obtain ⟨n, hn, hvalue⟩ := exists_roundTo_eq h places
  rw [le_div_iff₀ hpow, hvalue]
  calc |(n : ℚ) / 10 ^ places - x.toRat| * 10 ^ places = |(n : ℚ) - x.toRat * 10 ^ places| := by
        rw [← abs_of_pos hpow, ← abs_mul, abs_of_pos hpow, sub_mul, div_mul_cancel₀ _ hpow.ne']
    _ ≤ 1 / 2 := hn.near

/-- Rounding at a place keeps the order of values. -/
theorem roundTo_mono (hx : x.negative = false) (hy : y.negative = false) (hle : x.toRat ≤ y.toRat) :
    (x.roundTo places).toRat ≤ (y.roundTo places).toRat := by
  obtain ⟨n, hn, hvalue⟩ := exists_roundTo_eq hx places
  obtain ⟨m, hm, hvalue'⟩ := exists_roundTo_eq hy places
  have hscaled : x.toRat * 10 ^ places ≤ y.toRat * 10 ^ places := by gcongr
  have hcoefficient := hn.mono hm hscaled
  rw [hvalue, hvalue']
  gcongr

/-- A value with few enough digits after the point is left alone. -/
theorem toRat_roundTo (h : x.negative = false) (hplaces : HasPlaces places x.toRat) :
    (x.roundTo places).toRat = x.toRat := by
  obtain ⟨n, hn, hvalue⟩ := exists_roundTo_eq h places
  obtain ⟨m, hm⟩ := hplaces
  rw [hm, div_mul_cancel₀ _ (by positivity)] at hn
  rw [hvalue, hm, hn.unique (.natCast m)]

/-- Nothing above half a unit of the place is lost. -/
theorem toRat_roundTo_pos_iff (h : x.negative = false) :
    0 < (x.roundTo places).toRat ↔ 1 / 2 / 10 ^ places < x.toRat := by
  obtain ⟨n, hn, hvalue⟩ := exists_roundTo_eq h places
  have hlast : 1 / 2 / 10 ^ places < x.toRat ↔ 1 / 2 < x.toRat * 10 ^ places :=
    div_lt_iff₀ (by positivity)
  rw [hvalue, div_pos_iff_of_pos_right (by positivity), Nat.cast_pos, hn.pos_iff, hlast]

end RoundTo

end FeeOracle.Decimal
