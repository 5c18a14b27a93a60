import FeeOracle.Proofs.Double.Unsigned
import FeeOracle.Proofs.Double.Value
import Mathlib.Tactic.FieldSimp

/-!
# What arithmetic on doubles loses

An operation on finite doubles without a sign rounds the exact result once. Where that is neither
very small nor very large, the rounded one differs from it by one part in `2 ^ 53` at most
(`Rounds`). Natural numbers of 53 binary digits, and the powers of ten up to the 22nd, are doubles
themselves (`IsNat`).
-/

namespace FeeOracle.Double

/-- Is the double what the value may be rounded to, which it is close to then? -/
structure Rounds (value : ℚ) (x : Double) : Prop extends IsUnsigned x where
  near : |x.toRat - value| ≤ value / 2 ^ 53

/-- Is the double the natural number itself? -/
structure IsNat (n : ℕ) (x : Double) : Prop extends IsUnsigned x where
  units_eq : x.units = n * unitsPerOne

/-- Is the value far from both ends of the range of doubles? -/
structure IsModerate (value : ℚ) : Prop where
  not_small : 1 / 2 ^ 100 ≤ value
  not_large : value ≤ 2 ^ 100

section Rounding

variable {num den : ℕ}

/-- Where all 53 binary digits are there, rounding loses half a unit of the last of them at most. -/
theorem abs_nearestMagnitude_sub_le (hden : 0 < den) (hnormal : 2 ^ (52 : Nat) * den ≤ num) :
    |(magnitudeUnits (nearestMagnitude num den) - num / den : ℚ)| ≤ num / den / 2 ^ 53 := by
  obtain ⟨shift, hmagnitude, hsmall, hshift⟩ := exists_nearestMagnitude_eq num den
  have hstep : 0 < den * 2 ^ shift := Nat.mul_pos hden (Nat.two_pow_pos shift)
  have hdigits : 2 ^ (52 : Nat) ≤ num / (den * 2 ^ shift) := by
    rcases hshift with rfl | hlow
    · rwa [Nat.pow_zero, Nat.mul_one, Nat.le_div_iff_mul_le hden]
    · exact hlow
  have hround := halfEven_eq_or num (den * 2 ^ shift)
  have hunits :=
    magnitudeUnits_binade shift (halfEven num (den * 2 ^ shift)) (by omega) (.inr (by omega))
  have hnear := (isNearestEven_halfEven num hstep).near
  have hlarge : (2 ^ 52 : ℚ) * 2 ^ shift ≤ num / den := by
    have hpos : (0 : ℚ) < den := by exact_mod_cast hden
    rw [Nat.le_div_iff_mul_le hstep] at hdigits
    rw [le_div_iff₀ hpos]
    calc (2 ^ 52 : ℚ) * 2 ^ shift * den = ((2 ^ (52 : Nat) * (den * 2 ^ shift) : ℕ) : ℚ) := by
          push_cast; ring
      _ ≤ num := by exact_mod_cast hdigits
  have hsplit : (magnitudeUnits (nearestMagnitude num den) - num / den : ℚ) =
      (halfEven num (den * 2 ^ shift) - num / (den * 2 ^ shift : ℕ)) * 2 ^ shift := by
    rw [hmagnitude, hunits]
    push_cast
    field_simp
  calc |(magnitudeUnits (nearestMagnitude num den) - num / den : ℚ)|
      = |(halfEven num (den * 2 ^ shift) - num / (den * 2 ^ shift : ℕ) : ℚ)| * 2 ^ shift := by
        rw [hsplit, abs_mul, abs_of_pos (by positivity : (0 : ℚ) < 2 ^ shift)]
    _ ≤ 1 / 2 * 2 ^ shift := by gcongr
    _ = 2 ^ 52 * 2 ^ shift / 2 ^ 53 := by ring
    _ ≤ num / den / 2 ^ 53 := by gcongr

/-- A quotient of units is far from both ends of the range of doubles. -/
theorem bounds_of_isModerate (hden : 0 < den) (hvalue : IsModerate (num / den / unitsPerOne)) :
    2 ^ (52 : Nat) * den ≤ num ∧ num ≤ magnitudeUnits (1123 * 2 ^ (52 : Nat)) * den := by
  have hpos : (0 : ℚ) < den := by exact_mod_cast hden
  have hsmallest : 2 ^ (52 : Nat) * 2 ^ (100 : Nat) ≤ unitsPerOne := by decide +kernel
  have hgreatest : magnitudeUnits (1123 * 2 ^ (52 : Nat)) = 2 ^ (100 : Nat) * unitsPerOne := by
    decide +kernel
  have hpositive := unitsPerOne_pos
  obtain ⟨hsmall, hlarge⟩ := hvalue
  rw [hgreatest]
  generalize unitsPerOne = unit at *
  rw [le_div_iff₀ hpositive, le_div_iff₀ hpos] at hsmall
  rw [div_le_iff₀ hpositive, div_le_iff₀ hpos] at hlarge
  constructor
  · have hscaled : (2 ^ 52 * den : ℚ) ≤ num := by
      calc (2 ^ 52 * den : ℚ)
        _ = 1 / 2 ^ 100 * ((2 ^ (52 : Nat) * 2 ^ (100 : Nat) : ℕ) : ℚ) * den := by push_cast; ring
        _ ≤ 1 / 2 ^ 100 * unit * den := by gcongr
        _ ≤ num := hsmall
    exact_mod_cast hscaled
  · exact_mod_cast hlarge

theorem rounds_ofUnits (hden : 0 < den) (hvalue : IsModerate (num / den / unitsPerOne)) :
    Rounds (num / den / unitsPerOne) (ofUnits false num den) := by
  obtain ⟨hnormal, hhigh⟩ := bounds_of_isModerate hden hvalue
  have hbelow := (@nearestMagnitude_between num den 0 _ hden (by simp [magnitudeUnits]) hhigh).2
  have hfinite : nearestMagnitude num den < infinityMagnitude :=
    Nat.lt_of_le_of_lt hbelow (by decide)
  refine ⟨⟨rfl, isFinite_ofMagnitude.2 hfinite⟩, ?_⟩
  have hmagnitude : (ofUnits false num den).magnitude = nearestMagnitude num den :=
    magnitude_ofMagnitude hfinite
  rw [toRat_of_unsigned rfl, hmagnitude, ← sub_div, abs_div, abs_of_pos unitsPerOne_pos,
    div_right_comm]
  exact div_le_div_of_nonneg_right (abs_nearestMagnitude_sub_le hden hnormal) unitsPerOne_pos.le

/-- The quotient of a number of 15 digits and a power of ten of 22 is far from both ends. -/
theorem isModerate_div (hnum : 0 < num) (hshort : num ≤ 10 ^ 15) (hden : 0 < den)
    (hsmall : den ≤ 10 ^ 22) : IsModerate (num / den) := by
  have hone : (1 : ℚ) ≤ num := by exact_mod_cast hnum
  have hshort : (num : ℚ) ≤ 10 ^ 15 := by exact_mod_cast hshort
  have hdenOne : (1 : ℚ) ≤ den := by exact_mod_cast hden
  have hsmall : (den : ℚ) ≤ 10 ^ 22 := by exact_mod_cast hsmall
  constructor
  · rw [le_div_iff₀ (by linarith)]
    linarith
  · rw [div_le_iff₀ (by linarith)]
    linarith

theorem rounds_ofRatio (hden : 0 < den) (hvalue : IsModerate (num / den)) :
    Rounds (num / den) (ofRatio false num den) := by
  have hunits : ((num * unitsPerOne : ℕ) : ℚ) / den / unitsPerOne = num / den := by
    rw [Nat.cast_mul, div_right_comm, mul_div_cancel_right₀ _ unitsPerOne_pos.ne']
  rw [← hunits] at hvalue ⊢
  exact rounds_ofUnits hden hvalue

end Rounding

section Operations

variable {x y : Double}

/-- A sum is rounded once. -/
theorem rounds_add (hx : IsUnsigned x) (hy : IsUnsigned y)
    (hvalue : IsModerate (x.toRat + y.toRat)) : Rounds (x.toRat + y.toRat) (x + y) := by
  have hsum : (((x.units + y.units : ℕ) : ℚ) / (1 : ℕ) / unitsPerOne) = x.toRat + y.toRat := by
    rw [Nat.cast_add, units_eq_toRat_mul hx.sign, units_eq_toRat_mul hy.sign, ← add_mul,
      Nat.cast_one, div_one, mul_div_cancel_right₀ _ unitsPerOne_pos.ne']
  rw [add_of_isUnsigned hx hy, ← hsum]
  rw [← hsum] at hvalue
  exact rounds_ofUnits Nat.one_pos hvalue

/-- A product is rounded once. -/
theorem rounds_mul (hx : IsUnsigned x) (hy : IsUnsigned y)
    (hvalue : IsModerate (x.toRat * y.toRat)) : Rounds (x.toRat * y.toRat) (x * y) := by
  have hproduct : (((x.units * y.units : ℕ) : ℚ) / unitsPerOne / unitsPerOne) =
      x.toRat * y.toRat := by
    rw [Nat.cast_mul, units_eq_toRat_mul hx.sign, units_eq_toRat_mul hy.sign, mul_mul_mul_comm,
      ← mul_assoc, mul_div_cancel_right₀ _ unitsPerOne_pos.ne',
      mul_div_cancel_right₀ _ unitsPerOne_pos.ne']
  rw [mul_of_isUnsigned hx hy, ← hproduct]
  rw [← hproduct] at hvalue
  exact rounds_ofUnits (Nat.cast_pos.1 unitsPerOne_pos) hvalue

/-- What a positive value is rounded to is not zero. -/
theorem Rounds.magnitude_ne_zero {value : ℚ} (h : Rounds value x) (hvalue : 0 < value) :
    x.magnitude ≠ 0 := by
  intro hzero
  have hnear := (abs_le.1 h.near).1
  rw [toRat_of_unsigned h.sign, hzero, magnitudeUnits, if_pos (by decide), Nat.cast_zero,
    zero_div] at hnear
  linarith

/-- The loss, as it appears after scaling up. -/
theorem Rounds.scaled {value factor : ℚ} (h : Rounds value x) (hfactor : 0 ≤ factor) :
    |x.toRat * factor - value * factor| ≤ value * factor / 2 ^ 53 := by
  calc |x.toRat * factor - value * factor| = |x.toRat - value| * factor := by
        rw [← sub_mul, abs_mul, abs_of_nonneg hfactor]
    _ ≤ value / 2 ^ 53 * factor := mul_le_mul_of_nonneg_right h.near hfactor
    _ = value * factor / 2 ^ 53 := div_mul_eq_mul_div ..

end Operations

/-! ### Natural numbers -/

section Naturals

variable {x y : Double} {n d : ℕ}

theorem IsNat.toRat_eq (h : IsNat n x) : x.toRat = n := by
  have hunits := units_eq_toRat_mul h.sign
  rw [h.units_eq, Nat.cast_mul] at hunits
  exact (mul_right_cancel₀ unitsPerOne_pos.ne' hunits).symm

/-- Every significand of 53 binary digits, times a power of two, is the value of a magnitude. -/
theorem exists_magnitudeUnits_eq {significand : ℕ} (h : significand ≤ 2 ^ (53 : Nat)) (shift : ℕ) :
    ∃ magnitude, magnitudeUnits magnitude = significand * 2 ^ shift := by
  induction shift with
  | zero =>
    exact ⟨0 * 2 ^ (52 : Nat) + significand, magnitudeUnits_binade 0 significand h (.inl rfl)⟩
  | succ shift ih =>
    obtain ⟨magnitude, hmagnitude⟩ := ih
    obtain ⟨doubled, hdoubled⟩ := exists_magnitudeUnits_eq_two_mul magnitude
    exact ⟨doubled, by rw [hdoubled, hmagnitude, Nat.pow_succ']; exact Nat.mul_left_comm ..⟩

/-- A natural number with 53 binary digits in front of its zeros is a double. -/
theorem isNat_ofNat_mul_two_pow {significand shift : ℕ} (h : significand ≤ 2 ^ (53 : Nat))
    (hshift : shift ≤ 22) : IsNat (significand * 2 ^ shift) (ofNat (significand * 2 ^ shift)) := by
  obtain ⟨magnitude, hmagnitude⟩ := exists_magnitudeUnits_eq h (shift + 1074)
  have hunits : magnitudeUnits magnitude = significand * 2 ^ shift * unitsPerOne := by
    rw [unitsPerOne, hmagnitude, Nat.pow_add, Nat.mul_assoc]
  have hfinite : magnitude < infinityMagnitude := by
    have hbound : 2 ^ (53 : Nat) * 2 ^ (22 + 1074 : Nat) < magnitudeUnits infinityMagnitude := by
      decide +kernel
    rw [← magnitudeUnits_strictMono.lt_iff_lt, hmagnitude]
    exact Nat.lt_of_le_of_lt (Nat.mul_le_mul h (Nat.pow_le_pow_right Nat.two_pos (by omega))) hbound
  have hnearest : nearestMagnitude (significand * 2 ^ shift * unitsPerOne) 1 = magnitude := by
    rw [← hunits, ← Nat.mul_one (magnitudeUnits magnitude)]
    exact nearestMagnitude_magnitudeUnits_mul magnitude Nat.one_pos
  have hdouble : ofNat (significand * 2 ^ shift) = ofMagnitude false magnitude := by
    rw [ofNat, ofRatio, ofUnits, hnearest]
  rw [hdouble]
  refine ⟨⟨rfl, isFinite_ofMagnitude.2 hfinite⟩, ?_⟩
  rw [units, magnitude_ofMagnitude hfinite, hunits]

theorem isNat_ofNat (h : n ≤ 2 ^ (53 : Nat)) : IsNat n (ofNat n) := by
  have hnat := isNat_ofNat_mul_two_pow h (Nat.zero_le 22)
  rwa [Nat.pow_zero, Nat.mul_one] at hnat

/-- The first powers of ten are doubles, as the powers of five in them have 53 binary digits at
    most. -/
theorem isNat_ofNat_ten_pow {exponent : ℕ} (h : exponent ≤ 22) :
    IsNat (10 ^ exponent) (ofNat (10 ^ exponent)) := by
  have hfive : 5 ^ exponent ≤ 2 ^ (53 : Nat) :=
    Nat.le_trans (Nat.pow_le_pow_right (by decide) h) (by decide +kernel)
  have hten : 10 ^ exponent = 5 ^ exponent * 2 ^ exponent := by rw [← Nat.mul_pow]
  rw [hten]
  exact isNat_ofNat_mul_two_pow hfive h

/-- A quotient without remainder is the natural number. -/
theorem ofRatio_mul_self (n : ℕ) (hd : 0 < d) : ofRatio false (n * d) d = ofNat n := by
  have hcancel := nearestMagnitude_mul_right (n * unitsPerOne) Nat.one_pos hd
  rw [Nat.one_mul, Nat.mul_right_comm] at hcancel
  rw [ofNat, ofRatio, ofRatio, ofUnits, ofUnits, hcancel]

/-- The quotient of two natural numbers is rounded once. -/
theorem div_of_isNat (hx : IsNat n x) (hy : IsNat d y) (hd : 0 < d) :
    x / y = ofRatio false n d := by
  have hunit : 0 < unitsPerOne := Nat.cast_pos.1 unitsPerOne_pos
  have hpos : y.magnitude ≠ 0 := by
    intro hzero
    have hunits := hy.units_eq
    rw [units, hzero, magnitudeUnits, if_pos (by decide)] at hunits
    exact (Nat.mul_pos hd hunit).ne hunits
  rw [div_of_isUnsigned hx.toIsUnsigned hy.toIsUnsigned hpos, hx.units_eq, hy.units_eq, ofRatio,
    ofUnits, ofUnits, nearestMagnitude_mul_right _ hd hunit]

end Naturals
end FeeOracle.Double
