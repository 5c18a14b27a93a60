import FeeOracle.Proofs.Double.Nearest
import Mathlib.Algebra.Order.Field.Rat
import Mathlib.Tactic.GCongr
import Mathlib.Tactic.Linarith
import Mathlib.Tactic.Positivity
import Mathlib.Tactic.Ring

/-!
# The values of doubles

A finite double has a rational value. The double nearest to a value is told from all others by their
distances alone (`IsNearest`), and without a sign there is only one (`IsNearest.unique`). Rounding a
quotient gives it (`isNearest_ofRatio`), as long as that is finite.
-/

namespace FeeOracle.Double

/-- The value of a finite double. -/
def toRat (x : Double) : ℚ := x.value / unitsPerOne

/-- Is no other finite double nearer to the value, and is the magnitude even if another one is as
    near? -/
structure IsNearest (value : ℚ) (x : Double) : Prop where
  finite : x.isFinite = true
  near : ∀ y : Double, y.isFinite = true → |x.toRat - value| ≤ |y.toRat - value|
  even_of_tie :
    ∀ y : Double, y.isFinite = true → y.toRat ≠ x.toRat → |y.toRat - value| = |x.toRat - value| →
    x.magnitude % 2 = 0

theorem unitsPerOne_pos : (0 : ℚ) < unitsPerOne := by
  rw [Nat.cast_pos]
  decide +kernel

section Value

variable {x y : Double} {value : ℚ} {num den : ℕ}

theorem magnitude_ofMagnitude {negative : Bool} {magnitude : ℕ}
    (h : magnitude < infinityMagnitude) : (ofMagnitude negative magnitude).magnitude = magnitude :=
  Nat.min_eq_left (Nat.le_of_lt h)

theorem toRat_of_unsigned (h : x.negative = false) :
    x.toRat = magnitudeUnits x.magnitude / unitsPerOne := by
  rw [toRat, Double.value, h, units, if_neg Bool.false_ne_true, Int.cast_natCast]

theorem units_eq_toRat_mul (h : x.negative = false) : (x.units : ℚ) = x.toRat * unitsPerOne := by
  rw [toRat_of_unsigned h, div_mul_cancel₀ _ unitsPerOne_pos.ne', units]

theorem toRat_nonneg (h : x.negative = false) : 0 ≤ x.toRat := by
  rw [toRat_of_unsigned h]
  exact div_nonneg (Nat.cast_nonneg _) unitsPerOne_pos.le

theorem toRat_nonpos (h : x.negative = true) : x.toRat ≤ 0 := by
  rw [toRat, Double.value, h, if_pos rfl]
  refine div_nonpos_of_nonpos_of_nonneg ?_ unitsPerOne_pos.le
  simp

/-- Unsigned doubles are in the order of their magnitudes. -/
theorem toRat_lt_iff (hx : x.negative = false) (hy : y.negative = false) :
    x.toRat < y.toRat ↔ x.magnitude < y.magnitude := by
  rw [toRat_of_unsigned hx, toRat_of_unsigned hy,
    div_lt_div_iff_of_pos_right unitsPerOne_pos, Nat.cast_lt, magnitudeUnits_strictMono.lt_iff_lt]

theorem toRat_le_iff (hx : x.negative = false) (hy : y.negative = false) :
    x.toRat ≤ y.toRat ↔ x.magnitude ≤ y.magnitude := by
  rw [← not_lt, toRat_lt_iff hy hx, not_lt]

/-- Rounding keeps the order of quotients. -/
theorem toRat_ofRatio_mono {num den num' den' : ℕ} (hden : 0 < den) (hden' : 0 < den')
    (h : (num / den : ℚ) ≤ num' / den') :
    (ofRatio false num den).toRat ≤ (ofRatio false num' den').toRat := by
  have hcross : num * den' ≤ num' * den := by
    rw [div_le_div_iff₀ (by positivity) (by positivity)] at h
    exact_mod_cast h
  refine (toRat_le_iff rfl rfl).2 (min_le_min_right _ (nearestMagnitude_mono hden hden' ?_))
  rw [Nat.mul_right_comm, Nat.mul_right_comm num']
  exact Nat.mul_le_mul_right _ hcross

end Value

section Nearest

variable {num den magnitude : ℕ}

/-- The value midway between that of a magnitude and the next one, in units. -/
def midpoint (magnitude : ℕ) : ℚ := (magnitudeUnits magnitude + magnitudeUnits (magnitude + 1)) / 2

/-- A quotient is at most the midpoint above the magnitude that it rounds to. -/
theorem le_midpoint (hden : 0 < den) (h : nearestMagnitude num den = magnitude) :
    (num / den : ℚ) ≤ midpoint magnitude ∧
    ((num / den : ℚ) = midpoint magnitude → magnitude % 2 = 0) := by
  have hpos : (0 : ℚ) < den := by exact_mod_cast hden
  have hnotOver := mt (lt_nearestMagnitude_iff num magnitude hden).2 (Nat.not_lt_of_le h.le)
  rw [not_or, not_and] at hnotOver
  rw [midpoint, ← Nat.cast_add]
  generalize magnitudeUnits magnitude + magnitudeUnits (magnitude + 1) = twice at *
  constructor
  · have hle : (2 * num : ℚ) ≤ twice * den := by exact_mod_cast Nat.le_of_not_lt hnotOver.1
    rw [div_le_div_iff₀ hpos two_pos]
    linarith
  · intro hmid
    rw [div_eq_div_iff hpos.ne' two_ne_zero] at hmid
    have hcross : (twice * den : ℚ) = 2 * num := by linarith
    have heven := hnotOver.2 (by exact_mod_cast hcross)
    omega

/-- It is at least the midpoint below that magnitude. -/
theorem midpoint_le (hden : 0 < den) (h : nearestMagnitude num den = magnitude + 1) :
    midpoint magnitude ≤ (num / den : ℚ) ∧
    (midpoint magnitude = (num / den : ℚ) → (magnitude + 1) % 2 = 0) := by
  have hpos : (0 : ℚ) < den := by exact_mod_cast hden
  have hover := (lt_nearestMagnitude_iff num magnitude hden).1 (h ▸ Nat.lt_succ_self magnitude)
  rw [midpoint, ← Nat.cast_add]
  generalize magnitudeUnits magnitude + magnitudeUnits (magnitude + 1) = twice at *
  constructor
  · have hle : (twice * den : ℚ) ≤ 2 * num := by exact_mod_cast (by omega : twice * den ≤ 2 * num)
    rw [div_le_div_iff₀ two_pos hpos]
    linarith
  · intro hmid
    rw [div_eq_div_iff two_ne_zero hpos.ne'] at hmid
    have hcross : (twice * den : ℚ) = 2 * num := by linarith
    have hequal : twice * den = 2 * num := by exact_mod_cast hcross
    omega

/-- No other magnitude is nearer to a quotient than the one that it rounds to, and one is as near
    only if that is even. -/
theorem near_of_nearestMagnitude (hden : 0 < den) (h : nearestMagnitude num den = magnitude)
    (other : ℕ) :
    |(magnitudeUnits magnitude - num / den : ℚ)| ≤ |(magnitudeUnits other - num / den : ℚ)| ∧
      (other ≠ magnitude → |(magnitudeUnits other - num / den : ℚ)| =
        |(magnitudeUnits magnitude - num / den : ℚ)| →
        magnitude % 2 = 0) := by
  have hmono : ∀ {low high : ℕ}, low ≤ high → (magnitudeUnits low : ℚ) ≤ magnitudeUnits high :=
    fun hle => by exact_mod_cast magnitudeUnits_strictMono.monotone hle
  have hstep (low : ℕ) : (magnitudeUnits low : ℚ) < magnitudeUnits (low + 1) := by
    exact_mod_cast magnitudeUnits_lt_succ low
  rcases Nat.lt_trichotomy other magnitude with hlow | rfl | hhigh
  · -- The other one is at most as great as the one before.
    obtain ⟨before, rfl⟩ :
        ∃ before, magnitude = before + 1 := Nat.exists_eq_succ_of_ne_zero (by omega)
    obtain ⟨hmid, htie⟩ := midpoint_le hden h
    have hother := hmono (Nat.le_of_lt_succ hlow)
    have hbefore := hstep before
    unfold midpoint at hmid htie
    generalize (num / den : ℚ) = value at *
    rw [abs_of_nonpos (by linarith : (magnitudeUnits other : ℚ) - value ≤ 0)]
    refine ⟨abs_le.2 ⟨by linarith, by linarith⟩, fun _ hequal => htie ?_⟩
    rcases abs_choice ((magnitudeUnits (before + 1) : ℚ) - value) with habs | habs <;> linarith
  · simp
  · -- The other one is at least as great as the next one.
    obtain ⟨hmid, htie⟩ := le_midpoint hden h
    have hother := hmono (Nat.succ_le_of_lt hhigh)
    have hnext := hstep magnitude
    unfold midpoint at hmid htie
    generalize (num / den : ℚ) = value at *
    rw [abs_of_nonneg (by linarith : 0 ≤ (magnitudeUnits other : ℚ) - value)]
    refine ⟨abs_le.2 ⟨by linarith, by linarith⟩, fun _ hequal => htie ?_⟩
    rcases abs_choice ((magnitudeUnits magnitude : ℚ) - value) with habs | habs <;> linarith

/-- Rounding a quotient gives the nearest double, if that is finite. -/
theorem isNearest_ofUnits (hden : 0 < den) (hfinite : (ofUnits false num den).isFinite = true) :
    IsNearest (num / den / unitsPerOne) (ofUnits false num den) := by
  have hmagnitude : (ofUnits false num den).magnitude = nearestMagnitude num den :=
    magnitude_ofMagnitude (isFinite_ofMagnitude.1 hfinite)
  have hvalue : (0 : ℚ) ≤ num / den / unitsPerOne := div_nonneg (by positivity) unitsPerOne_pos.le
  have hdistance (y : Double) (hy : y.negative = false) : |y.toRat - num / den / unitsPerOne| =
      |(magnitudeUnits y.magnitude - num / den : ℚ)| / unitsPerOne := by
    rw [toRat_of_unsigned hy, ← sub_div, abs_div, abs_of_pos unitsPerOne_pos]
  have hself := hdistance (ofUnits false num den) rfl
  have hunsigned (y : Double) (hy : y.negative = false) :
      |(ofUnits false num den).toRat - num / den / unitsPerOne| ≤
        |y.toRat - num / den / unitsPerOne| ∧
        (y.magnitude ≠ (ofUnits false num den).magnitude →
          |y.toRat - num / den / unitsPerOne| =
            |(ofUnits false num den).toRat - num / den / unitsPerOne| →
          (ofUnits false num den).magnitude % 2 = 0) := by
    obtain ⟨hnear, htie⟩ := near_of_nearestMagnitude hden hmagnitude.symm y.magnitude
    rw [hdistance y hy, hself, div_left_inj' unitsPerOne_pos.ne']
    exact ⟨div_le_div_of_nonneg_right hnear unitsPerOne_pos.le, htie⟩
  -- Below zero there is nothing that is nearer than zero itself.
  have hzero : zero.toRat = 0 := by
    rw [toRat_of_unsigned rfl, show magnitudeUnits zero.magnitude = 0 by decide,
      Nat.cast_zero, zero_div]
  have hsigned (y : Double) (hy : y.negative = true) :
      |zero.toRat - num / den / unitsPerOne| ≤ |y.toRat - num / den / unitsPerOne| := by
    have hnonpos := toRat_nonpos hy
    rw [hzero, abs_of_nonpos (by linarith), abs_of_nonpos (by linarith)]
    linarith
  refine ⟨hfinite, fun y _ => ?_, fun y _ hne htie => ?_⟩
  · cases hy : y.negative with
    | false => exact (hunsigned y hy).1
    | true => exact (hunsigned zero rfl).1.trans (hsigned y hy)
  · cases hy : y.negative with
    | false =>
      refine (hunsigned y hy).2 (fun hsame => hne ?_) htie
      rw [toRat_of_unsigned hy, hsame, ← toRat_of_unsigned rfl]
    | true =>
      by_cases hnone : (ofUnits false num den).magnitude = 0
      · rw [hnone]
      · have hequal := le_antisymm ((hsigned y hy).trans_eq htie) (hunsigned zero rfl).1
        exact (hunsigned zero rfl).2 (Ne.symm hnone) hequal

theorem isNearest_ofRatio (hden : 0 < den) (hfinite : (ofRatio false num den).isFinite = true) :
    IsNearest (num / den) (ofRatio false num den) := by
  have hnearest := isNearest_ofUnits hden hfinite
  rwa [Nat.cast_mul, div_right_comm, mul_div_cancel_right₀ _ unitsPerOne_pos.ne'] at hnearest

/-- What is between two values is nearer to the middle than they are. -/
theorem abs_sub_lt_of_between {value low middle high : ℚ} (hlow : low < middle)
    (hhigh : middle < high) (h : |high - value| = |low - value|) :
    |middle - value| < |high - value| := by
  have hmiddle : high - value = -(low - value) := (abs_eq_abs.1 h).resolve_left (by linarith)
  rw [abs_of_nonneg (by linarith : 0 ≤ high - value), abs_lt]
  constructor <;> linarith

/-- Without a sign there is only one double that is nearest to a value. -/
theorem IsNearest.unique {value : ℚ} {x y : Double} (hx : IsNearest value x)
    (hy : IsNearest value y) (hxsign : x.negative = false) (hysign : y.negative = false) :
    x = y := by
  -- Two that are as near would both be even, and there would be one between them.
  have hle : ∀ {x y : Double},
      IsNearest value x → IsNearest value y → x.negative = false → y.negative = false →
      x.magnitude ≤ y.magnitude := by
    intro x y hx hy hxsign hysign
    by_contra hlt
    rw [Nat.not_le] at hlt
    have horder := (toRat_lt_iff hysign hxsign).2 hlt
    have hequal := le_antisymm (hx.near y hy.finite) (hy.near x hx.finite)
    have hxeven := hx.even_of_tie y hy.finite horder.ne hequal.symm
    have hyeven := hy.even_of_tie x hx.finite horder.ne' hequal
    let between : Double := ⟨false, y.magnitude + 1, Nat.lt_of_le_of_lt hlt x.magnitude_lt⟩
    have hbetween : between.magnitude < x.magnitude := by
      change y.magnitude + 1 < x.magnitude
      omega
    have hfinite : between.isFinite = true :=
      isFinite_iff.2 (Nat.lt_trans hbetween (isFinite_iff.1 hx.finite))
    have hnearer :=
      abs_sub_lt_of_between ((toRat_lt_iff hysign rfl).2 (Nat.lt_succ_self y.magnitude))
      ((toRat_lt_iff (show between.negative = false from rfl) hxsign).2 hbetween) hequal
    exact absurd (hx.near between hfinite) (not_le_of_gt hnearer)
  have hsame : x.magnitude = y.magnitude :=
    Nat.le_antisymm (hle hx hy hxsign hysign) (hle hy hx hysign hxsign)
  cases x
  cases y
  congr 1
  exact hxsign.trans hysign.symm

end Nearest
end FeeOracle.Double
