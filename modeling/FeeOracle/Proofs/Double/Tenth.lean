import FeeOracle.Proofs.Double.Accuracy
import Mathlib.Algebra.Order.Floor.Semifield
import Mathlib.Data.Rat.Floor

/-!
# The whole part of a tenth

Dividing a double by ten rounds the quotient before its whole part is taken. Below `10 * 2 ^ 51`
that makes no difference (`wholeTenth_of_small`): a double that is below a multiple of ten is too
far below it for its tenth to round up. In each of the next two binades it is the last digit that
decides (`wholeTenth_of_middle`, `wholeTenth_of_large`), and above them every tenth rounds to a
whole number, which is right only if the whole part is itself a double (`wholeTenth_of_huge`).
-/

namespace FeeOracle.Double

/-- The whole part of the tenth of a magnitude's value, which is rounded first. -/
def wholeTenth (magnitude : ℕ) : ℕ :=
  magnitudeUnits (nearestMagnitude (magnitudeUnits magnitude) 10) / unitsPerOne

section Grid

variable {magnitude shift significand : ℕ}

/-- From the binade above `2 ^ (52 + k)` on, all values are multiples of `2 ^ k`. -/
theorem two_pow_dvd_magnitudeUnits {k : ℕ} (h : 2 ^ (52 + k) ≤ magnitudeUnits magnitude) :
    2 ^ k ∣ magnitudeUnits magnitude := by
  obtain ⟨shift, significand, rfl, hlt, hnormal⟩ := exists_binade magnitude
  rw [magnitudeUnits_binade shift significand hlt.le hnormal] at h ⊢
  have hpow : 2 ^ (52 + k) < 2 ^ (53 + shift) := by
    refine Nat.lt_of_le_of_lt h ?_
    rw [Nat.pow_add]
    exact Nat.mul_lt_mul_of_pos_right hlt (Nat.two_pow_pos shift)
  have hle : k ≤ shift := by
    have := (Nat.pow_lt_pow_iff_right (by decide : 1 < 2)).1 hpow
    omega
  exact Nat.dvd_mul_left_of_dvd (Nat.pow_dvd_pow 2 hle) significand

/-- Rounding reaches a value whose significand has 53 binary digits from the midpoint below it
    on. -/
theorem le_magnitudeUnits_nearestMagnitude_iff (num : ℕ) {den : ℕ} (hden : 0 < den)
    (hlow : 2 ^ (52 : Nat) < significand) (hhigh : significand ≤ 2 ^ (53 : Nat)) :
    significand * 2 ^ shift ≤ magnitudeUnits (nearestMagnitude num den) ↔
      (2 * significand - 1) * 2 ^ shift * den < 2 * num ∨
        (2 * significand - 1) * 2 ^ shift * den = 2 * num ∧ significand % 2 = 0 := by
  have hhere := magnitudeUnits_binade shift significand hhigh (.inr hlow.le)
  have hbefore := magnitudeUnits_binade shift (significand - 1) (by omega) (.inr (by omega))
  have hnext : shift * 2 ^ (52 : Nat) + (significand - 1) + 1 =
      shift * 2 ^ (52 : Nat) + significand := by omega
  have hsum : (significand - 1) * 2 ^ shift + significand * 2 ^ shift =
      (2 * significand - 1) * 2 ^ shift := by
    rw [← Nat.add_mul]
    congr 1
    omega
  have hiff := lt_nearestMagnitude_iff num (shift * 2 ^ (52 : Nat) + (significand - 1)) hden
  rw [hnext, hbefore, hhere, hsum] at hiff
  rw [← hhere, magnitudeUnits_strictMono.le_iff_le, ← hnext, Nat.succ_le_iff, hiff]
  have hparity : (shift * 2 ^ (52 : Nat) + (significand - 1)) % 2 = 1 ↔
      significand % 2 = 0 := by omega
  rw [hparity]

/-- From the fourth binade above a value with 53 binary digits on, all values are multiples of eight
    of its steps. -/
theorem exists_magnitudeUnits_eq_eight_mul
    (h : 2 ^ (55 : Nat) * 2 ^ shift ≤ magnitudeUnits magnitude) :
    ∃ steps, magnitudeUnits magnitude = 8 * steps * 2 ^ shift := by
  have hlarge : 2 ^ (52 + (3 + shift)) ≤ magnitudeUnits magnitude := by
    rwa [← Nat.add_assoc, Nat.pow_add]
  obtain ⟨steps, hsteps⟩ := two_pow_dvd_magnitudeUnits hlarge
  exact ⟨steps, by rw [hsteps, Nat.pow_add, Nat.mul_right_comm]⟩

/-- So all values from `2 ^ (52 + k)` on are whole multiples of `2 ^ k`. -/
theorem two_pow_mul_unitsPerOne_dvd {k : ℕ}
    (h : 2 ^ (52 : Nat) * (2 ^ k * unitsPerOne) ≤ magnitudeUnits magnitude) :
    2 ^ k * unitsPerOne ∣ magnitudeUnits magnitude := by
  have hpow : 2 ^ k * unitsPerOne = 2 ^ (k + 1074) := by rw [Nat.pow_add, unitsPerOne]
  rw [hpow, ← Nat.pow_add] at h
  rw [hpow]
  exact two_pow_dvd_magnitudeUnits h

/-- A whole number of 53 binary digits, times a power of two, is the value of a magnitude. -/
theorem exists_magnitudeUnits_eq_mul_unitsPerOne (h : significand ≤ 2 ^ (53 : Nat)) (shift : ℕ) :
    ∃ magnitude, magnitudeUnits magnitude = significand * 2 ^ shift * unitsPerOne := by
  obtain ⟨magnitude, hmagnitude⟩ := exists_magnitudeUnits_eq h (shift + 1074)
  exact ⟨magnitude, by rw [hmagnitude, unitsPerOne, Nat.pow_add, Nat.mul_assoc]⟩

end Grid

section Tenth

variable {magnitude whole shift significand steps : ℕ}

/-- What is at least ten times such a number has a tenth that is at least the number. -/
theorem le_wholeTenth (hsignificand : significand ≤ 2 ^ (53 : Nat))
    (h : significand * 2 ^ shift * unitsPerOne * 10 ≤ magnitudeUnits magnitude) :
    significand * 2 ^ shift ≤ wholeTenth magnitude := by
  obtain ⟨low, hlow⟩ := exists_magnitudeUnits_eq_mul_unitsPerOne hsignificand shift
  rw [← hlow] at h
  have hbetween :=
    (nearestMagnitude_between (by decide) h (Nat.le_mul_of_pos_right _ (by decide))).1
  rw [wholeTenth, Nat.le_div_iff_mul_le (Nat.cast_pos.1 unitsPerOne_pos), ← hlow]
  exact magnitudeUnits_strictMono.monotone hbetween

theorem wholeTenth_le (hsignificand : significand ≤ 2 ^ (53 : Nat))
    (h : magnitudeUnits magnitude ≤ significand * 2 ^ shift * unitsPerOne * 10) :
    wholeTenth magnitude ≤ significand * 2 ^ shift := by
  obtain ⟨high, hhigh⟩ := exists_magnitudeUnits_eq_mul_unitsPerOne hsignificand shift
  have hnone : magnitudeUnits 0 * 10 ≤ magnitudeUnits magnitude := by simp [magnitudeUnits]
  rw [← hhigh] at h
  have hbetween := (nearestMagnitude_between (by decide) hnone h).2
  rw [wholeTenth, Nat.div_le_iff_le_mul_add_pred (Nat.cast_pos.1 unitsPerOne_pos),
    Nat.mul_comm, ← hhigh]
  exact Nat.le_add_right_of_le (magnitudeUnits_strictMono.monotone hbetween)

/-- The tenth of a greater value has no smaller whole part. -/
theorem wholeTenth_mono : Monotone wholeTenth := by
  intro magnitude magnitude' h
  have hunits := magnitudeUnits_strictMono.monotone h
  refine Nat.div_le_div_right (magnitudeUnits_strictMono.monotone ?_)
  exact nearestMagnitude_mono (by decide) (by decide) (Nat.mul_le_mul_right _ hunits)

/-- The whole part of the tenth is the right one if the tenth stays below the next whole number. -/
theorem wholeTenth_eq_iff (hwhole : magnitudeUnits magnitude / (10 * unitsPerOne) = whole)
    (hfits : whole < 2 ^ (53 : Nat)) :
    wholeTenth magnitude = whole ↔
      ¬ (whole + 1) * unitsPerOne ≤
        magnitudeUnits (nearestMagnitude (magnitudeUnits magnitude) 10) := by
  have hunit : 0 < unitsPerOne := Nat.cast_pos.1 unitsPerOne_pos
  have hlow : whole * 2 ^ 0 * unitsPerOne * 10 ≤ magnitudeUnits magnitude := by
    rw [← hwhole, Nat.pow_zero, Nat.mul_one, Nat.mul_assoc, Nat.mul_comm unitsPerOne]
    exact Nat.div_mul_le_self ..
  have hle := le_wholeTenth hfits.le hlow
  rw [Nat.pow_zero, Nat.mul_one] at hle
  rw [← Nat.le_div_iff_mul_le hunit, ← wholeTenth]
  omega

theorem unitsPerOne_eq_mul (h : shift ≤ 1074) : unitsPerOne = 2 ^ shift * 2 ^ (1074 - shift) := by
  rw [unitsPerOne, ← Nat.pow_add, Nat.add_sub_cancel' h]

theorem div_eq_of_steps (hsteps : magnitudeUnits magnitude = 8 * steps * 2 ^ (1074 - shift))
    (hshift : shift ≤ 1074) : magnitudeUnits magnitude / unitsPerOne = 8 * steps / 2 ^ shift := by
  rw [hsteps, unitsPerOne_eq_mul hshift, Nat.mul_div_mul_right _ _ (Nat.two_pow_pos _)]

theorem div_ten_eq_of_steps (hsteps : magnitudeUnits magnitude = 8 * steps * 2 ^ (1074 - shift))
    (hshift : shift ≤ 1074) :
    magnitudeUnits magnitude / (10 * unitsPerOne) = 8 * steps / (10 * 2 ^ shift) := by
  rw [hsteps, unitsPerOne_eq_mul hshift, ← Nat.mul_assoc,
    Nat.mul_div_mul_right _ _ (Nat.two_pow_pos _)]

/-- Where values are multiples of eight steps, five steps below the tenfold of the next whole number
    are enough. -/
theorem wholeTenth_eq_iff_of_steps
    (hsteps : magnitudeUnits magnitude = 8 * steps * 2 ^ (1074 - shift)) (hshift : shift ≤ 1074)
    (hwhole : magnitudeUnits magnitude / (10 * unitsPerOne) = whole)
    (hnext : (whole + 1) * 2 ^ shift = significand) (hlow : 2 ^ (52 : Nat) < significand)
    (hhigh : significand ≤ 2 ^ (53 : Nat)) :
    wholeTenth magnitude = whole ↔ 8 * steps + 5 < 10 * significand := by
  have hgrows := Nat.le_mul_of_pos_right (whole + 1) (Nat.two_pow_pos shift)
  rw [wholeTenth_eq_iff hwhole (by omega), unitsPerOne_eq_mul hshift, ← Nat.mul_assoc, hnext,
    le_magnitudeUnits_nearestMagnitude_iff _ (by decide) hlow hhigh, hsteps,
    Nat.mul_right_comm _ _ 10, ← Nat.mul_assoc 2, Nat.mul_lt_mul_right (Nat.two_pow_pos _),
    Nat.mul_left_inj (Nat.two_pow_pos _).ne']
  omega

/-- Times a power of two, a number from one on lies in the binade that ends with `2 ^ 53`. -/
theorem exists_shift (hpositive : 0 < whole) (hfits : whole ≤ 2 ^ (53 : Nat)) :
    ∃ shift ≤ 53, 2 ^ (52 : Nat) < whole * 2 ^ shift ∧ whole * 2 ^ shift ≤ 2 ^ (53 : Nat) := by
  have hne : 2 ^ (53 : Nat) / whole ≠ 0 := (Nat.div_pos hfits hpositive).ne'
  have hle := (Nat.le_div_iff_mul_le hpositive).1 (Nat.log2_self_le hne)
  have hlt := (Nat.div_lt_iff_lt_mul hpositive).1 (Nat.lt_log2_self (n := 2 ^ (53 : Nat) / whole))
  generalize (2 ^ (53 : Nat) / whole).log2 = shift at hle hlt
  have hdouble : 2 ^ (shift + 1) * whole = 2 * (whole * 2 ^ shift) := by ring
  rw [Nat.mul_comm] at hle
  have hpow : 2 ^ shift ≤ 2 ^ 53 := Nat.le_trans (Nat.le_mul_of_pos_left _ hpositive) hle
  exact ⟨shift, (Nat.pow_le_pow_iff_right (by decide)).1 hpow, by omega, hle⟩

/-- Below `10 * 2 ^ 51` the whole part of the tenth is the right one. -/
theorem wholeTenth_of_small (h : magnitudeUnits magnitude < 10 * 2 ^ (51 : Nat) * unitsPerOne) :
    wholeTenth magnitude = magnitudeUnits magnitude / (10 * unitsPerOne) := by
  have hunit : 0 < unitsPerOne := Nat.cast_pos.1 unitsPerOne_pos
  have hfits : magnitudeUnits magnitude / (10 * unitsPerOne) < 2 ^ (51 : Nat) := by
    rw [Nat.div_lt_iff_lt_mul (Nat.mul_pos (by decide) hunit)]
    omega
  generalize hwhole : magnitudeUnits magnitude / (10 * unitsPerOne) = whole at hfits ⊢
  obtain ⟨shift, hshift, hlow, hhigh⟩ := exists_shift (by omega : 0 < whole + 1) (by omega)
  by_cases hnear : 2 ^ (55 : Nat) * 2 ^ (1074 - shift) ≤ magnitudeUnits magnitude
  · -- The next whole number has so many digits after the point that it is a multiple of four steps.
    obtain ⟨extra, rfl⟩ : ∃ extra, shift = extra + 2 := by
      refine ⟨shift - 2, ?_⟩
      rcases shift with _ | _ | shift <;> omega
    obtain ⟨steps, hsteps⟩ := exists_magnitudeUnits_eq_eight_mul hnear
    have hfour : (whole + 1) * 2 ^ (extra + 2) = 4 * ((whole + 1) * 2 ^ extra) := by ring
    have hbelow : 8 * steps < 10 * 2 ^ (extra + 2) * (whole + 1) := by
      rw [← hwhole, div_ten_eq_of_steps hsteps (by omega)]
      exact Nat.lt_mul_div_succ _ (Nat.mul_pos (by decide) (Nat.two_pow_pos _))
    rw [Nat.mul_assoc, Nat.mul_comm (2 ^ (extra + 2)), hfour] at hbelow
    rw [wholeTenth_eq_iff_of_steps hsteps (by omega) hwhole hfour (hfour ▸ hlow) (hfour ▸ hhigh)]
    omega
  · -- What is far below that number needs no look at the steps.
    rw [wholeTenth_eq_iff hwhole (by omega), unitsPerOne_eq_mul (by omega : shift ≤ 1074),
      ← Nat.mul_assoc, le_magnitudeUnits_nearestMagnitude_iff _ (by decide) hlow hhigh]
    have hfar : 2 ^ (56 : Nat) * 2 ^ (1074 - shift) ≤
        (2 * ((whole + 1) * 2 ^ shift) - 1) * 2 ^ (1074 - shift) * 10 := by
      rw [Nat.mul_right_comm]
      exact Nat.mul_le_mul_right _ (by omega)
    omega

/-- Above them the tenth of a number of so many steps is right if it is five steps below the next
    multiple of ten. -/
theorem exists_steps (hshift : shift ≤ 53)
    (hlow : 10 * 2 ^ (52 : Nat) * unitsPerOne ≤ magnitudeUnits magnitude * 2 ^ shift)
    (hhigh : magnitudeUnits magnitude * 2 ^ shift < 10 * 2 ^ (53 : Nat) * unitsPerOne) :
    ∃ steps, magnitudeUnits magnitude / unitsPerOne = 8 * steps / 2 ^ shift ∧
      (wholeTenth magnitude = magnitudeUnits magnitude / (10 * unitsPerOne) ↔
        8 * steps + 5 < 10 * ((8 * steps / (10 * 2 ^ shift) + 1) * 2 ^ shift)) := by
  have hpos : 0 < 2 ^ shift := Nat.two_pow_pos shift
  have hstep : 0 < 2 ^ (1074 - shift) := Nat.two_pow_pos _
  rw [unitsPerOne_eq_mul (by omega : shift ≤ 1074), Nat.mul_comm (2 ^ shift),
    ← Nat.mul_assoc] at hlow hhigh
  rw [Nat.mul_le_mul_right_iff hpos] at hlow
  rw [Nat.mul_lt_mul_right hpos] at hhigh
  obtain ⟨steps, hsteps⟩ := @exists_magnitudeUnits_eq_eight_mul magnitude (1074 - shift) (by omega)
  rw [hsteps, Nat.mul_le_mul_right_iff hstep] at hlow
  rw [hsteps, Nat.mul_lt_mul_right hstep] at hhigh
  have hwhole := div_ten_eq_of_steps hsteps (by omega)
  refine ⟨steps, div_eq_of_steps hsteps (by omega), ?_⟩
  have hnext := Nat.lt_mul_div_succ (8 * steps) (Nat.mul_pos (by decide : 0 < 10) hpos)
  have hhere := Nat.div_mul_le_self (8 * steps) (10 * 2 ^ shift)
  generalize 8 * steps / (10 * 2 ^ shift) = whole at *
  rw [hwhole]
  refine wholeTenth_eq_iff_of_steps hsteps (by omega) hwhole rfl ?_ ?_
  · rw [Nat.mul_assoc, Nat.mul_comm (2 ^ shift)] at hnext
    omega
  · have hless : whole * 2 ^ shift < 2 ^ (53 - shift) * 2 ^ shift := by
      rw [Nat.mul_left_comm] at hhere
      rw [Nat.pow_sub_mul_pow 2 hshift]
      omega
    rw [← Nat.pow_sub_mul_pow 2 hshift, Nat.mul_le_mul_right_iff hpos]
    exact (Nat.mul_lt_mul_right hpos).1 hless

/-- Up to `10 * 2 ^ 52` it is the right one if the last digit is less than eight. -/
theorem wholeTenth_of_middle (hlow : 10 * 2 ^ (51 : Nat) * unitsPerOne ≤ magnitudeUnits magnitude)
    (hhigh : magnitudeUnits magnitude < 10 * 2 ^ (52 : Nat) * unitsPerOne) :
    wholeTenth magnitude = magnitudeUnits magnitude / (10 * unitsPerOne) ↔
      magnitudeUnits magnitude / unitsPerOne % 10 < 8 := by
  obtain ⟨steps, hdiv, hiff⟩ := @exists_steps magnitude 1 (by decide) (by omega) (by omega)
  rw [hiff, hdiv]
  omega

/-- Up to `10 * 2 ^ 53` it is the right one if the last digit is less than five. -/
theorem wholeTenth_of_large (hlow : 10 * 2 ^ (52 : Nat) * unitsPerOne ≤ magnitudeUnits magnitude)
    (hhigh : magnitudeUnits magnitude < 10 * 2 ^ (53 : Nat) * unitsPerOne) :
    wholeTenth magnitude = magnitudeUnits magnitude / (10 * unitsPerOne) ↔
      magnitudeUnits magnitude / unitsPerOne % 10 < 5 := by
  obtain ⟨steps, hdiv, hiff⟩ := @exists_steps magnitude 0 (by decide) (by omega) (by omega)
  rw [hiff, hdiv, Nat.pow_zero, Nat.mul_one, Nat.mul_one, Nat.div_one]
  omega

/-- From `2 ^ 53` on the next value is greater by two at least. -/
theorem magnitudeUnits_add_two_le (h : 2 ^ (53 : Nat) * unitsPerOne ≤ magnitudeUnits magnitude) :
    magnitudeUnits magnitude + 2 * unitsPerOne ≤ magnitudeUnits (magnitude + 1) := by
  have hlt := magnitudeUnits_lt_succ magnitude
  have hhere := @two_pow_mul_unitsPerOne_dvd magnitude 1 (by omega)
  have hnext := @two_pow_mul_unitsPerOne_dvd (magnitude + 1) 1 (by omega)
  have hgap := Nat.le_of_dvd (Nat.sub_pos_of_lt hlt) (Nat.dvd_sub hnext hhere)
  omega

/-- From there on it is the right one if that is a double. -/
theorem wholeTenth_of_huge (hlow : 10 * 2 ^ (53 : Nat) * unitsPerOne ≤ magnitudeUnits magnitude) :
    wholeTenth magnitude = magnitudeUnits magnitude / (10 * unitsPerOne) ↔
      ∃ same,
        magnitudeUnits same = magnitudeUnits magnitude / (10 * unitsPerOne) * unitsPerOne := by
  have hunit : 0 < unitsPerOne := Nat.cast_pos.1 unitsPerOne_pos
  have hten : 0 < 10 * unitsPerOne := Nat.mul_pos (by decide) hunit
  have hwhole : 2 ^ (53 : Nat) ≤ magnitudeUnits magnitude / (10 * unitsPerOne) := by
    rw [Nat.le_div_iff_mul_le hten]
    omega
  have hbelow := Nat.div_mul_le_self (magnitudeUnits magnitude) (10 * unitsPerOne)
  have habove := Nat.lt_mul_div_succ (magnitudeUnits magnitude) hten
  generalize magnitudeUnits magnitude / (10 * unitsPerOne) = whole at *
  constructor
  · -- The tenth is so great that it has no fraction.
    intro hsame
    have htenth : 2 ^ (53 : Nat) * unitsPerOne ≤
        magnitudeUnits (nearestMagnitude (magnitudeUnits magnitude) 10) := by
      rw [← Nat.le_div_iff_mul_le hunit]
      exact hwhole.trans_eq hsame.symm
    have heven :=
      @two_pow_mul_unitsPerOne_dvd (nearestMagnitude (magnitudeUnits magnitude) 10) 1 (by omega)
    exact ⟨_,
      by rw [← hsame, wholeTenth, Nat.div_mul_cancel (Nat.dvd_trans (Nat.dvd_mul_left ..) heven)]⟩
  · -- The exact tenth is less than midway to the next double.
    rintro ⟨same, hsame⟩
    have hgap :=
      @magnitudeUnits_add_two_le same ((Nat.mul_le_mul_right _ hwhole).trans_eq hsame.symm)
    have hle : same ≤ nearestMagnitude (magnitudeUnits magnitude) 10 := by
      refine (nearestMagnitude_between (by decide) ?_ (Nat.le_mul_of_pos_right _ (by decide))).1
      rw [hsame, Nat.mul_assoc, Nat.mul_comm unitsPerOne]
      exact hbelow
    have hge : ¬ same < nearestMagnitude (magnitudeUnits magnitude) 10 := by
      rw [lt_nearestMagnitude_iff _ _ (by decide)]
      rw [Nat.mul_add, Nat.mul_comm _ whole, Nat.mul_one] at habove
      rw [Nat.mul_left_comm] at habove
      omega
    rw [wholeTenth, ← Nat.le_antisymm hle (Nat.le_of_not_lt hge), hsame, Nat.mul_div_cancel _ hunit]

end Tenth

/-! ### Doubles -/

section Value

variable {x : Double}

theorem div_ten_eq (hx : IsUnsigned x) : x / 10 = ofUnits false x.units 10 := by
  have hten : IsNat 10 (10 : Double) := isNat_ofNat (by decide)
  have hpos : (10 : Double).magnitude ≠ 0 := by decide +kernel
  rw [div_of_isUnsigned hx hten.toIsUnsigned hpos, hten.units_eq, ofUnits, ofUnits,
    nearestMagnitude_mul_right _ (by decide) (Nat.cast_pos.1 unitsPerOne_pos)]

theorem isFinite_ofUnits_ten (hx : IsUnsigned x) : (ofUnits false x.units 10).isFinite = true := by
  have hnone : magnitudeUnits 0 * 10 ≤ x.units := by simp [magnitudeUnits]
  have hbelow : nearestMagnitude x.units 10 ≤ x.magnitude :=
    (nearestMagnitude_between (by decide) hnone (Nat.le_mul_of_pos_right _ (by decide))).2
  exact isFinite_ofMagnitude.2 (Nat.lt_of_le_of_lt hbelow (isFinite_iff.1 hx.finite))

theorem isUnsigned_div_ten (hx : IsUnsigned x) : IsUnsigned (x / 10) := by
  rw [div_ten_eq hx]
  exact ⟨rfl, isFinite_ofUnits_ten hx⟩

/-- Division by ten rounds the exact tenth. -/
theorem isNearest_div_ten (hx : IsUnsigned x) : IsNearest (x.toRat / 10) (x / 10) := by
  have hnearest := isNearest_ofUnits (by decide) (isFinite_ofUnits_ten hx)
  rwa [← div_ten_eq hx, units, div_right_comm, ← toRat_of_unsigned hx.sign] at hnearest

theorem floorNat_div_ten (hx : IsUnsigned x) : (x / 10).floorNat = wholeTenth x.magnitude := by
  rw [div_ten_eq hx, floorNat, units, ofUnits,
    magnitude_ofMagnitude (isFinite_ofMagnitude.1 (isFinite_ofUnits_ten hx)), wholeTenth, units]

theorem toRat_lt_natCast_iff (hx : x.negative = false) (n : ℕ) :
    x.toRat < n ↔ x.units < n * unitsPerOne := by
  rw [toRat_of_unsigned hx, div_lt_iff₀ unitsPerOne_pos, ← Nat.cast_mul, Nat.cast_lt, units]

theorem floor_toRat (hx : x.negative = false) : ⌊x.toRat⌋₊ = x.units / unitsPerOne := by
  rw [toRat_of_unsigned hx, Nat.floor_div_eq_div, units]

theorem floor_toRat_div_ten (hx : x.negative = false) :
    ⌊x.toRat / 10⌋₊ = x.units / (10 * unitsPerOne) := by
  rw [Nat.floor_div_ofNat, floor_toRat hx, Nat.div_div_eq_div_mul, Nat.mul_comm]

theorem toRat_nonneg_iff (hsign : x.negative = true) : 0 ≤ x.toRat ↔ x.magnitude = 0 := by
  have hvalue : x.toRat = -(x.units / unitsPerOne) := by
    rw [toRat, Double.value, hsign, if_pos rfl, Int.cast_neg, Int.cast_natCast, neg_div]
  rw [hvalue, neg_nonneg, div_le_iff₀ unitsPerOne_pos, zero_mul, Nat.cast_nonpos, units]
  constructor
  · intro hnone
    exact magnitudeUnits_strictMono.injective (hnone.trans (by decide : 0 = magnitudeUnits 0))
  · intro hnone
    rw [hnone]
    rfl

/-- Comparing with zero is comparing the value with it. -/
theorem lt_zero_iff (hfinite : x.isFinite = true) : Double.lt x 0 = true ↔ x.toRat < 0 := by
  have hzero : (0 : Double) = zero := by decide +kernel
  have hplace : Double.lt x 0 = true ↔ x.place < 0 := by
    rw [isFinite_iff] at hfinite
    have hnumber : x.isNaN = false := by
      simp only [isNaN, decide_eq_false_iff_not]
      omega
    simp [Double.lt, hzero, hnumber, show zero.isNaN = false by decide,
      show zero.place = 0 by decide]
  rw [hplace, ← not_le, ← not_le, not_iff_not]
  cases hsign : x.negative with
  | false => exact iff_of_true (by simp [place, hsign]) (toRat_nonneg hsign)
  | true =>
    rw [toRat_nonneg_iff hsign]
    simp only [place, hsign, if_true]
    omega

/-- A natural number of this size is a double if it is the value of a magnitude. -/
theorem exists_isNat_iff {n : ℕ} (h : n ≤ 2 ^ (64 : Nat)) :
    (∃ x, IsNat n x) ↔ ∃ magnitude, magnitudeUnits magnitude = n * unitsPerOne := by
  constructor
  · rintro ⟨x, hx⟩
    exact ⟨x.magnitude, hx.units_eq⟩
  · rintro ⟨magnitude, hmagnitude⟩
    have hbound : 2 ^ (64 : Nat) * unitsPerOne < magnitudeUnits infinityMagnitude := by
      decide +kernel
    have hfinite : magnitude < infinityMagnitude := by
      rw [← magnitudeUnits_strictMono.lt_iff_lt, hmagnitude]
      exact Nat.lt_of_le_of_lt (Nat.mul_le_mul_right _ h) hbound
    refine ⟨ofMagnitude false magnitude, ⟨rfl, isFinite_ofMagnitude.2 hfinite⟩, ?_⟩
    rw [units, magnitude_ofMagnitude hfinite, hmagnitude]

end Value

end FeeOracle.Double
