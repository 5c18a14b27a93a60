import FeeOracle.Proofs.Decimal.Places

/-!
# The nearest decimal number

A product or quotient of decimal numbers is the decimal number nearest to the exact one
(`IsNearest`): as many digits after the point are kept as fit, and the last of them is rounded to
even. So a result that is a decimal number itself is exact (`IsNearest.toRat_eq`), rounding keeps
the order of values although the number of places varies with them (`IsNearest.mono`), and either
the last of 28 places or the last digit of a full coefficient bounds the error (`IsNearest.near`).
-/

namespace FeeOracle.Decimal

/-- Whole numbers overflow from here on: half a unit below the bound of coefficients, since that is
    even. -/
def overflowBound : ℚ := coefficientBound - 1 / 2

/-- Is `x`, which is not negative, the decimal number nearest to `value`? No more digits after the
    point fit, and the last one is rounded to even. -/
structure IsNearest (value : ℚ) (x : Decimal) : Prop where
  sign : x.negative = false
  coefficient : IsNearestEven (value * 10 ^ x.scale) x.coefficient
  full : x.scale < maxScale → overflowBound ≤ value * 10 ^ (x.scale + 1)

/-- What a decimal number represents is below the overflow. -/
theorem IsRepresentable.lt_overflowBound (h : IsRepresentable value) (hnonneg : 0 ≤ value) :
    value < overflowBound := by
  obtain ⟨coefficient, scale, hfits, -, rfl⟩ := h.exists_eq_div hnonneg
  have hcoefficient : (coefficient : ℚ) + 1 ≤ coefficientBound := by exact_mod_cast hfits
  have hone : (1 : ℚ) ≤ 10 ^ scale := one_le_pow₀ (by norm_num)
  have hshrinks : (coefficient : ℚ) / 10 ^ scale ≤ coefficient := div_le_self (by positivity) hone
  rw [overflowBound]
  linarith

namespace IsNearest

variable {value value' : ℚ} {x y : Decimal}

/-- The coefficient fits, so the scaled value is below the overflow. -/
theorem scaled_lt (h : IsNearest value x) : value * 10 ^ x.scale < overflowBound := by
  have heven : coefficientBound % 2 = 0 := by decide +kernel
  have hfits := mt (h.coefficient.le_iff_of_even heven).2 (Nat.not_le.2 x.coefficient_lt)
  exact lt_of_not_ge hfits

theorem lt_overflowBound (h : IsNearest value x) (hnonneg : 0 ≤ value) : value < overflowBound := by
  have hone : (1 : ℚ) ≤ 10 ^ x.scale := one_le_pow₀ (by norm_num)
  exact lt_of_le_of_lt (le_mul_of_one_le_right hnonneg hone) h.scaled_lt

/-- Of a smaller value no fewer digits after the point are kept. -/
theorem scale_le (h : IsNearest value x) (h' : IsNearest value' y) (hnonneg : 0 ≤ value')
    (hle : value ≤ value') : y.scale ≤ x.scale := by
  by_contra hlt
  have hfull := h.full (Nat.lt_of_lt_of_le (Nat.lt_of_not_le hlt) y.scale_le)
  have hpow : (10 : ℚ) ^ (x.scale + 1) ≤ 10 ^ y.scale :=
    pow_le_pow_right₀ (by norm_num) (Nat.lt_of_not_le hlt)
  have hscaled : value * 10 ^ (x.scale + 1) ≤ value' * 10 ^ y.scale :=
    calc value * 10 ^ (x.scale + 1) ≤ value' * 10 ^ (x.scale + 1) := by gcongr
      _ ≤ value' * 10 ^ y.scale := by gcongr
  exact absurd (lt_of_le_of_lt (hfull.trans hscaled) h'.scaled_lt) (lt_irrefl _)

/-- A number that has not all places fills its coefficient: with one more digit it would not fit. -/
theorem coefficientBound_le (h : IsNearest value x) (hscale : x.scale < maxScale) :
    coefficientBound ≤ 10 * x.coefficient := by
  have hfull := h.full hscale
  have hge := h.coefficient.ge
  rw [overflowBound, pow_succ] at hfull
  have hcast : 2 * (coefficientBound : ℚ) ≤ 20 * x.coefficient + 11 := by linarith
  have hdouble : 2 * coefficientBound ≤ 20 * x.coefficient + 11 := by exact_mod_cast hcast
  -- The bound ends in the digit 6, which rounding up carries over.
  have hdigit : coefficientBound % 10 = 6 := by decide +kernel
  omega

/-- Rounding keeps the order of values. -/
theorem mono (h : IsNearest value x) (h' : IsNearest value' y) (hnonneg : 0 ≤ value')
    (hle : value ≤ value') : x.toRat ≤ y.toRat := by
  rw [toRat_eq_div h.sign, toRat_eq_div h'.sign]
  rcases Nat.lt_or_eq_of_le (h.scale_le h' hnonneg hle) with hlt | heq
  · have hfits : x.coefficient ≤ 10 * y.coefficient :=
      Nat.le_trans (Nat.le_of_lt x.coefficient_lt)
        (h'.coefficientBound_le (Nat.lt_of_lt_of_le hlt x.scale_le))
    have hcast : (x.coefficient : ℚ) ≤ 10 * y.coefficient := by exact_mod_cast hfits
    have hpow : (10 : ℚ) ^ (y.scale + 1) ≤ 10 ^ x.scale := pow_le_pow_right₀ (by norm_num) hlt
    calc (x.coefficient : ℚ) / 10 ^ x.scale ≤ 10 * y.coefficient / 10 ^ (y.scale + 1) := by gcongr
      _ = y.coefficient / 10 ^ y.scale := by rw [pow_succ']; field_simp
  · have hscaled : value * 10 ^ x.scale ≤ value' * 10 ^ y.scale := by
      rw [heq]
      gcongr
    have hcoefficient := h.coefficient.mono h'.coefficient hscaled
    rw [heq]
    gcongr

/-- No places of a decimal number are lost. -/
theorem le_scale (h : IsNearest value x) {coefficient scale : ℕ}
    (hfits : coefficient < coefficientBound) (hscale : scale ≤ maxScale)
    (hvalue : value = coefficient / 10 ^ scale) : scale ≤ x.scale := by
  by_contra hlt
  have hfull := h.full (Nat.lt_of_lt_of_le (Nat.lt_of_not_le hlt) hscale)
  have hnonneg : 0 ≤ value := by
    rw [hvalue]
    positivity
  have hpow : (10 : ℚ) ^ (x.scale + 1) ≤ 10 ^ scale :=
    pow_le_pow_right₀ (by norm_num) (Nat.lt_of_not_le hlt)
  have hwhole : value * 10 ^ scale = coefficient := by
    rw [hvalue, div_mul_cancel₀ _ (by positivity)]
  have hscaled : value * 10 ^ (x.scale + 1) ≤ coefficient := by
    rw [← hwhole]
    gcongr
  have hsucc : (coefficient : ℚ) + 1 ≤ coefficientBound := by exact_mod_cast hfits
  rw [overflowBound] at hfull
  linarith

/-- A value that has no more places than are kept is exact. -/
theorem toRat_eq_of_hasPlaces (h : IsNearest value x) (hplaces : HasPlaces x.scale value) :
    x.toRat = value := by
  obtain ⟨n, rfl⟩ := hplaces
  have hcoefficient := h.coefficient
  rw [div_mul_cancel₀ _ (by positivity)] at hcoefficient
  rw [toRat_eq_div h.sign, hcoefficient.unique (.natCast n)]

/-- The nearest decimal number of a value that is one is that value. -/
theorem toRat_eq (h : IsNearest value x) (hvalue : IsRepresentable value) (hnonneg : 0 ≤ value) :
    x.toRat = value := by
  obtain ⟨coefficient, scale, hfits, hscale, heq⟩ := hvalue.exists_eq_div hnonneg
  exact h.toRat_eq_of_hasPlaces (HasPlaces.mono ⟨coefficient, heq⟩ (h.le_scale hfits hscale heq))

/-- The error is at most half a unit of the last place. -/
theorem near_of_scale (h : IsNearest value x) : |x.toRat - value| ≤ 1 / 2 / 10 ^ x.scale := by
  have hpow : (0 : ℚ) < 10 ^ x.scale := by positivity
  rw [le_div_iff₀ hpow]
  calc |x.toRat - value| * 10 ^ x.scale = |(x.coefficient : ℚ) - value * 10 ^ x.scale| := by
        rw [← toRat_mul_pow h.sign, ← sub_mul, abs_mul, abs_of_pos hpow]
    _ ≤ 1 / 2 := h.coefficient.near

/-- Of a number that has not all places the error is small against the value, as its coefficient is
    full. -/
theorem near_of_scale_lt (h : IsNearest value x) (hscale : x.scale < maxScale) :
    |x.toRat - value| ≤ value / 10 ^ 28 := by
  have hfull := h.full hscale
  have hlarge : 5 * 10 ^ 28 ≤ overflowBound := by decide +kernel
  refine h.near_of_scale.trans ?_
  rw [div_le_div_iff₀ (by positivity) (by positivity)]
  rw [pow_succ] at hfull
  linarith

/-- Of a value with at most 28 places the error is small against the value. -/
theorem near_of_hasPlaces (h : IsNearest value x) (hplaces : HasPlaces maxScale value) :
    |x.toRat - value| ≤ value / 10 ^ 28 := by
  rcases Nat.lt_or_eq_of_le x.scale_le with hlt | heq
  · exact h.near_of_scale_lt hlt
  · rw [h.toRat_eq_of_hasPlaces (hplaces.mono (Nat.le_of_eq heq.symm)), sub_self, abs_zero]
    exact div_nonneg hplaces.nonneg (by norm_num)

/-- The error is half a unit of the last of 28 places, or small against the value. -/
theorem near (h : IsNearest value x) (hnonneg : 0 ≤ value) :
    |x.toRat - value| ≤ 1 / 2 / 10 ^ 28 + value / 10 ^ 28 := by
  have hrelative : 0 ≤ value / 10 ^ 28 := div_nonneg hnonneg (by norm_num)
  rcases Nat.lt_or_eq_of_le x.scale_le with hlt | heq
  · exact (h.near_of_scale_lt hlt).trans (le_add_of_nonneg_left (by norm_num))
  · have hlast := h.near_of_scale
    rw [heq] at hlast
    exact hlast.trans (le_add_of_nonneg_right hrelative)

/-- A value rounds to more than zero exactly above half a unit of the last of 28 places. -/
theorem toRat_pos_iff (h : IsNearest value x) : 0 < x.toRat ↔ 1 / 2 / 10 ^ 28 < value := by
  have hlast : 1 / 2 / 10 ^ 28 < value ↔ 1 / 2 < value * 10 ^ 28 := div_lt_iff₀ (by norm_num)
  rw [Decimal.toRat_pos_iff h.sign, h.coefficient.pos_iff, hlast]
  rcases Nat.lt_or_eq_of_le x.scale_le with hlt | heq
  · -- The coefficient is full, so that both sides hold.
    have hfull := h.full hlt
    have hlarge : 5 < overflowBound := by decide +kernel
    have hpow : (10 : ℚ) ^ (x.scale + 1) ≤ 10 ^ 28 := pow_le_pow_right₀ (by norm_num) hlt
    have hvalue : 0 < value := by
      by_contra hle
      have := mul_nonpos_of_nonpos_of_nonneg (not_lt.1 hle)
        (show (0 : ℚ) ≤ 10 ^ (x.scale + 1) by positivity)
      linarith
    have hscaled : value * 10 ^ (x.scale + 1) ≤ value * 10 ^ 28 := by gcongr
    rw [pow_succ] at hfull hscaled
    constructor <;> intro <;> linarith
  · rw [heq]

/-- A value that does not round to zero is at most half as much again as what it rounds to. -/
theorem le_of_toRat_pos (h : IsNearest value x) (hpos : 0 < x.toRat) : value ≤ 3 / 2 * x.toRat := by
  have hone : (1 : ℚ) ≤ x.coefficient := by exact_mod_cast (Decimal.toRat_pos_iff h.sign).1 hpos
  have hge := h.coefficient.ge
  rw [toRat_eq_div h.sign, ← mul_div_assoc, le_div_iff₀ (by positivity)]
  linarith

theorem unique (h : IsNearest value x) (h' : IsNearest value y) (hnonneg : 0 ≤ value) : x = y := by
  have hscale : x.scale = y.scale :=
    Nat.le_antisymm (h'.scale_le h hnonneg le_rfl) (h.scale_le h' hnonneg le_rfl)
  have hcoefficient := h'.coefficient
  rw [← hscale] at hcoefficient
  have hsign := h.sign.trans h'.sign.symm
  have hsame := h.coefficient.unique hcoefficient
  cases x
  cases y
  simp_all

end IsNearest

section Rounded

variable {num den : ℕ} {x y z : Decimal}

theorem of?_eq_some_iff {coefficient scale : ℕ} :
    of? false coefficient scale = some x ↔
    x.negative = false ∧ x.coefficient = coefficient ∧ x.scale = scale := by
  unfold of?
  split
  next hfits =>
    rw [Option.some.injEq]
    constructor
    · rintro rfl
      exact ⟨rfl, rfl, rfl⟩
    · rintro ⟨hsign, rfl, rfl⟩
      cases x
      simp_all
  next hunfit =>
    simp only [reduceCtorEq, false_iff]
    rintro ⟨-, rfl, rfl⟩
    exact hunfit ⟨x.coefficient_lt, x.scale_le⟩

theorem of?_eq_none_iff {coefficient scale : ℕ} (hscale : scale ≤ maxScale) :
    of? false coefficient scale = none ↔ coefficientBound ≤ coefficient := by
  simp [of?, hscale]

/-- Rounding at a given place fails from the overflow on. -/
theorem of?_halfEven_eq_none_iff (num : ℕ) (hden : 0 < den) {scale : ℕ}
    (hscale : scale ≤ maxScale) :
    of? false (halfEven (num * 10 ^ scale) den) scale = none ↔
    overflowBound ≤ (num : ℚ) / den * 10 ^ scale := by
  have heven : coefficientBound % 2 = 0 := by decide +kernel
  have hround := isNearestEven_halfEven (num * 10 ^ scale) hden
  rw [of?_eq_none_iff hscale, hround.le_iff_of_even heven, overflowBound]
  push_cast
  rw [mul_div_right_comm]

/-- The digit at a given place is rounded to even. -/
theorem isNearestEven_of_of? (hden : 0 < den) {scale : ℕ}
    (h : of? false (halfEven (num * 10 ^ scale) den) scale = some x) :
    x.negative = false ∧ x.scale = scale ∧
    IsNearestEven ((num : ℚ) / den * 10 ^ scale) x.coefficient := by
  obtain ⟨hsign, hcoefficient, hscale⟩ := of?_eq_some_iff.1 h
  have hround := isNearestEven_halfEven (num * 10 ^ scale) hden
  push_cast at hround
  rw [mul_div_right_comm, ← hcoefficient] at hround
  exact ⟨hsign, hscale, hround⟩

/-- The nearest number is found from any place on after which no more digits fit. -/
theorem isNearest_of_nearestWithin? (hden : 0 < den) {scale : ℕ} (hscale : scale ≤ maxScale)
    (hfull : scale < maxScale → overflowBound ≤ (num : ℚ) / den * 10 ^ (scale + 1))
    (h : nearestWithin? false num den scale = some x) : IsNearest (num / den) x := by
  induction scale with
  | zero =>
    have hwhole : of? false (halfEven (num * 10 ^ 0) den) 0 = some x := by
      simpa [nearestWithin?] using h
    obtain ⟨hsign, hplaces, hround⟩ := isNearestEven_of_of? hden hwhole
    exact ⟨hsign, by rwa [hplaces], by rwa [hplaces]⟩
  | succ scale ih =>
    rw [nearestWithin?] at h
    split at h
    next y hfits =>
      obtain rfl := Option.some.inj h
      obtain ⟨hsign, hplaces, hround⟩ := isNearestEven_of_of? hden hfits
      exact ⟨hsign, by rwa [hplaces], by rwa [hplaces]⟩
    next hunfit =>
      exact ih (Nat.le_of_succ_le hscale)
        (fun _ => (of?_halfEven_eq_none_iff num hden hscale).1 hunfit) h

/-- There is a nearest number unless even the whole number does not fit. -/
theorem nearestWithin?_eq_none_iff (hden : 0 < den) {scale : ℕ} (hscale : scale ≤ maxScale) :
    nearestWithin? false num den scale = none ↔ overflowBound ≤ (num : ℚ) / den := by
  induction scale with
  | zero => simpa [nearestWithin?] using of?_halfEven_eq_none_iff num hden hscale
  | succ scale ih =>
    have hplace := of?_halfEven_eq_none_iff num hden hscale
    rw [nearestWithin?]
    split
    next y hfits =>
      rw [hfits] at hplace
      have hvalue : (0 : ℚ) ≤ num / den := by positivity
      have hone : (1 : ℚ) ≤ 10 ^ (scale + 1) := one_le_pow₀ (by norm_num)
      have hfitsWhole : ¬ overflowBound ≤ (num : ℚ) / den := fun hover =>
        Option.some_ne_none y (hplace.2 (hover.trans (le_mul_of_one_le_right hvalue hone)))
      simp [hfitsWhole]
    next => exact ih (Nat.le_of_succ_le hscale)

theorem nearest?_eq_none_iff (hden : 0 < den) :
    nearest? false num den = none ↔ overflowBound ≤ (num : ℚ) / den :=
  nearestWithin?_eq_none_iff hden le_rfl

/-- What is computed of a quotient is the nearest decimal number. -/
theorem nearest?_eq_some_iff (hden : 0 < den) :
    nearest? false num den = some x ↔ IsNearest (num / den) x := by
  have hvalue : (0 : ℚ) ≤ num / den := by positivity
  have hsound : ∀ y, nearest? false num den = some y → IsNearest (num / den) y := fun y h =>
    isNearest_of_nearestWithin? hden le_rfl (fun hlt => absurd hlt (lt_irrefl _)) h
  refine ⟨hsound x, fun h => ?_⟩
  cases hfound : nearest? false num den with
  | none =>
    exact absurd ((nearest?_eq_none_iff hden).1 hfound) (not_le.2 (h.lt_overflowBound hvalue))
  | some y => rw [(hsound y hfound).unique h hvalue]

theorem exists_isNearest_iff {value : ℚ} (hnonneg : 0 ≤ value) :
    (∃ x, IsNearest value x) ↔ value < overflowBound := by
  have hnum : ((value.num.toNat : ℕ) : ℚ) / value.den = value := by
    rw [← Int.cast_natCast, Int.toNat_of_nonneg (Rat.num_nonneg.2 hnonneg), Rat.num_div_den]
  have hnone : nearest? false value.num.toNat value.den = none ↔ overflowBound ≤ value := by
    rw [nearest?_eq_none_iff value.den_pos, hnum]
  have hsome (x : Decimal) : nearest? false value.num.toNat value.den = some x ↔
      IsNearest value x := by
    rw [nearest?_eq_some_iff value.den_pos, hnum]
  rw [← not_le, ← hnone, ← ne_eq, Option.ne_none_iff_exists']
  exact exists_congr fun x => (hsome x).symm

/-- Nothing is rounded of a value that is a decimal number itself. -/
theorem IsRepresentable.exists_isNearest {value : ℚ} (h : IsRepresentable value)
    (hnonneg : 0 ≤ value) : ∃ x, IsNearest value x ∧ x.toRat = value := by
  obtain ⟨x, hx⟩ := (exists_isNearest_iff hnonneg).2 (h.lt_overflowBound hnonneg)
  exact ⟨x, hx, hx.toRat_eq h hnonneg⟩

/-- Where a value has a nearest decimal number, a smaller one has one too, which is not greater. -/
theorem IsNearest.exists_of_le {value value' : ℚ} (h : IsNearest value' y) (hnonneg : 0 ≤ value)
    (hle : value ≤ value') : ∃ x, IsNearest value x ∧ x.toRat ≤ y.toRat := by
  have hnonneg' := hnonneg.trans hle
  obtain ⟨x, hx⟩ :=
    (exists_isNearest_iff hnonneg).2 (lt_of_le_of_lt hle (h.lt_overflowBound hnonneg'))
  exact ⟨x, hx, hx.mono h hnonneg' hle⟩

/-- The product is the decimal number nearest to the exact one. -/
theorem mul?_eq_some_iff (hx : x.negative = false) (hy : y.negative = false) :
    x.mul? y = some z ↔ IsNearest (x.toRat * y.toRat) z := by
  have hvalue : ((x.coefficient * y.coefficient : ℕ) : ℚ) / ((10 ^ (x.scale + y.scale) : ℕ) : ℚ) =
      x.toRat * y.toRat := by
    rw [toRat_eq_div hx, toRat_eq_div hy]
    push_cast
    rw [pow_add, div_mul_div_comm]
  rw [mul?, hx, hy, bne_self_eq_false, nearest?_eq_some_iff (Nat.pow_pos (by decide)), hvalue]

/-- The quotient is the decimal number nearest to the exact one. -/
theorem div?_eq_some_iff (hx : x.negative = false) (hy : y.negative = false)
    (hzero : y.isZero = false) : x.div? y = some z ↔ IsNearest (x.toRat / y.toRat) z := by
  have hcoefficient : 0 < y.coefficient := (toRat_pos_iff hy).1 ((toRat_pos_iff_isZero hy).2 hzero)
  have hvalue :
      ((x.coefficient * 10 ^ y.scale : ℕ) : ℚ) / ((y.coefficient * 10 ^ x.scale : ℕ) : ℚ) =
      x.toRat / y.toRat := by
    rw [toRat_eq_div hx, toRat_eq_div hy]
    push_cast
    rw [div_div_div_eq, mul_comm (10 ^ x.scale : ℚ)]
  have hden : 0 < y.coefficient * 10 ^ x.scale := Nat.mul_pos hcoefficient (Nat.pow_pos (by decide))
  rw [div?, hzero, if_neg Bool.false_ne_true, hx, hy, bne_self_eq_false,
    nearest?_eq_some_iff hden, hvalue]

end Rounded

end FeeOracle.Decimal
