import FeeOracle.Proofs.Double.Tenth
import FeeOracle.Proofs.Gas.Payload

/-!
# Tiers in tenths

A tier in tenths of a unit is accepted if it is finite and not below zero. Its whole units are the
whole part of the tenth of it, which is rounded to a double first and capped at the greatest tier.
Where that changes them is told by the number alone (`KeepsWhole`): nowhere below `10 * 2 ^ 51`, and
everywhere from `10 * 2 ^ 64` on.
-/

namespace FeeOracle

open Double

/-- Does this number of tenths keep its whole units, although the tenth of it is rounded and
    capped? -/
def KeepsWhole (tenths : ℚ) : Prop :=
  if tenths < 10 * 2 ^ 51 then True
  else if tenths < 10 * 2 ^ 52 then ⌊tenths⌋₊ % 10 < 8
  else if tenths < 10 * 2 ^ 53 then ⌊tenths⌋₊ % 10 < 5
  else tenths < 10 * 2 ^ 64 ∧ ∃ x, IsNat ⌊tenths / 10⌋₊ x

section Cap

variable {magnitude : ℕ}

/-- From `2 ^ 67` on tenths come in thousands, so none are short of `10 * 2 ^ 64` by less than
    that. -/
theorem add_le_of_lt (hlow : 2 ^ (67 : Nat) * unitsPerOne ≤ magnitudeUnits magnitude)
    (hhigh : magnitudeUnits magnitude < 10 * 2 ^ (64 : Nat) * unitsPerOne) :
    magnitudeUnits magnitude + 1000 * unitsPerOne ≤ 10 * 2 ^ (64 : Nat) * unitsPerOne := by
  have hdvd := @two_pow_mul_unitsPerOne_dvd magnitude 15 (by omega)
  have hall : 2 ^ (15 : Nat) * unitsPerOne ∣ 10 * 2 ^ (64 : Nat) * unitsPerOne :=
    Nat.mul_dvd_mul_right (by decide) _
  have hgap := Nat.le_of_dvd (Nat.sub_pos_of_lt hhigh) (Nat.dvd_sub hall hdvd)
  omega

/-- The cap makes no number of whole units right. -/
theorem min_wholeTenth_eq_iff :
    min (wholeTenth magnitude) maxTier = magnitudeUnits magnitude / (10 * unitsPerOne) ↔
      magnitudeUnits magnitude < 10 * 2 ^ (64 : Nat) * unitsPerOne ∧
        wholeTenth magnitude = magnitudeUnits magnitude / (10 * unitsPerOne) := by
  have hten : 0 < 10 * unitsPerOne := Nat.mul_pos (by decide) (Nat.cast_pos.1 unitsPerOne_pos)
  have hcap : maxTier = 2 ^ (64 : Nat) - 1 := rfl
  by_cases hhigh : magnitudeUnits magnitude < 10 * 2 ^ (64 : Nat) * unitsPerOne
  · have hbound := @wholeTenth_le magnitude 64 1 (by decide) (by omega)
    have hless : magnitudeUnits magnitude / (10 * unitsPerOne) < maxTier := by
      rw [Nat.div_lt_iff_lt_mul hten, hcap]
      by_cases hlow : 2 ^ (67 : Nat) * unitsPerOne ≤ magnitudeUnits magnitude
      · have hgap := add_le_of_lt hlow hhigh
        omega
      · omega
    omega
  · have hbeyond : 2 ^ (64 : Nat) ≤ magnitudeUnits magnitude / (10 * unitsPerOne) := by
      rw [Nat.le_div_iff_mul_le hten]
      omega
    omega

end Cap

section Tier

variable {name : String} {tenths : Double} {units : ℕ}

/-- The whole units are kept where the whole part of the tenth is the right one and is not
    capped. -/
theorem keepsWhole_toRat_iff (hsign : tenths.negative = false) :
    KeepsWhole tenths.toRat ↔
    min (wholeTenth tenths.magnitude) maxTier = tenths.units / (10 * unitsPerOne) := by
  have hten : 0 < 10 * unitsPerOne := Nat.mul_pos (by decide) (Nat.cast_pos.1 unitsPerOne_pos)
  have hbound (shift : ℕ) : tenths.toRat < 10 * 2 ^ shift ↔
      tenths.units < 10 * 2 ^ shift * unitsPerOne := by
    rw [← toRat_lt_natCast_iff hsign]
    push_cast
    rfl
  simp only [KeepsWhole, hbound, floor_toRat hsign, floor_toRat_div_ten hsign]
  rw [Double.units, min_wholeTenth_eq_iff]
  split_ifs with hsmall hmiddle hlarge
  · exact iff_of_true trivial ⟨by omega, wholeTenth_of_small hsmall⟩
  · rw [← wholeTenth_of_middle (Nat.le_of_not_lt hsmall) hmiddle]
    exact ⟨fun h => ⟨by omega, h⟩, And.right⟩
  · rw [← wholeTenth_of_large (Nat.le_of_not_lt hmiddle) hlarge]
    exact ⟨fun h => ⟨by omega, h⟩, And.right⟩
  · refine and_congr_right fun hhigh => ?_
    rw [wholeTenth_of_huge (Nat.le_of_not_lt hlarge), exists_isNat_iff]
    rw [Nat.div_le_iff_le_mul_add_pred hten]
    omega

theorem tierOfTenths_eq_ok (name : String) (hfinite : tenths.isFinite = true)
    (hnonneg : 0 ≤ tenths.toRat) :
    tierOfTenths name tenths = .ok (min (tenths / 10).floorNat maxTier) := by
  rw [tierOfTenths, if_neg]
  rw [lt_zero_iff hfinite, hfinite]
  simpa using hnonneg

/-- Anything else is refused. -/
theorem tierOfTenths_eq_error (name : String) (h : ¬ (tenths.isFinite = true ∧ 0 ≤ tenths.toRat)) :
    tierOfTenths name tenths = .error (invalidTier name tenths.text) := by
  rw [tierOfTenths, if_pos]
  by_cases hfinite : tenths.isFinite = true
  · rw [lt_zero_iff hfinite]
    exact .inr (lt_of_not_ge fun hnonneg => h ⟨hfinite, hnonneg⟩)
  · exact .inl (by simpa using hfinite)

/-- Zero with a sign is read like zero without one. -/
theorem exists_isUnsigned_of_nonneg (hfinite : tenths.isFinite = true)
    (hnonneg : 0 ≤ tenths.toRat) :
    ∃ x, IsUnsigned x ∧ x.toRat = tenths.toRat ∧ (x / 10).floorNat = (tenths / 10).floorNat := by
  cases hsign : tenths.negative with
  | false => exact ⟨tenths, ⟨hsign, hfinite⟩, rfl, rfl⟩
  | true =>
    have hnone := (toRat_nonneg_iff hsign).1 hnonneg
    obtain rfl : tenths = { negative := true, magnitude := 0 } := by
      cases tenths
      congr
    exact ⟨zero, ⟨rfl, rfl⟩, by decide +kernel, by decide +kernel⟩

end Tier

/-- A number of tenths is accepted if it is finite and not below zero, and refused otherwise. What
    is accepted becomes the whole part of the double nearest to its tenth, capped at the greatest
    tier. That is the whole part of the tenth itself where it is kept, and nowhere else. -/
theorem tierOfTenths_account (name : String) (tenths : Double) :
    (¬ (tenths.isFinite = true ∧ 0 ≤ tenths.toRat) →
      tierOfTenths name tenths = .error (invalidTier name tenths.text)) ∧
    (tenths.isFinite = true ∧ 0 ≤ tenths.toRat →
      ∃ units x, tierOfTenths name tenths = .ok units ∧ IsNearest (tenths.toRat / 10) x ∧
        units = min ⌊x.toRat⌋₊ (2 ^ (64 : Nat) - 1) ∧
        (units = ⌊tenths.toRat / 10⌋₊ ↔ KeepsWhole tenths.toRat)) := by
  refine ⟨tierOfTenths_eq_error name, fun ⟨hfinite, hnonneg⟩ => ?_⟩
  obtain ⟨x, hx, hvalue, hsame⟩ := exists_isUnsigned_of_nonneg hfinite hnonneg
  refine ⟨_, x / 10, tierOfTenths_eq_ok name hfinite hnonneg, ?_, ?_, ?_⟩
  · rw [← hvalue]
    exact isNearest_div_ten hx
  · rw [← hsame, floor_toRat (isUnsigned_div_ten hx).sign]
    rfl
  · rw [← hvalue, ← hsame, floor_toRat_div_ten hx.sign, keepsWhole_toRat_iff hx.sign,
      floorNat_div_ten hx]

/-- The first number of tenths that is not kept; its tenth rounds up to the next whole number. -/
theorem tierOfTenths_account_first :
    tierOfTenths "fast" (-1) = .error (invalidTier "fast" (-1 : Double).text) ∧
      tierOfTenths "fast" 22517998136852488 = .ok 2251799813685249 ∧
      ¬ KeepsWhole 22517998136852488 ∧
        ∃ x, IsNearest (22517998136852488 / 10) x ∧ ⌊x.toRat⌋₊ = 2251799813685249 := by
  have hvalue : (22517998136852488 : Double).toRat = 22517998136852488 := by decide +kernel
  have hread : tierOfTenths "fast" 22517998136852488 = .ok 2251799813685249 := by decide +kernel
  have hwhole : ⌊(22517998136852488 : Double).toRat / 10⌋₊ = 2251799813685248 := by
    rw [floor_toRat_div_ten (by decide +kernel)]
    decide +kernel
  have hrefused := (tierOfTenths_account "fast" (-1)).1 (by decide +kernel)
  obtain ⟨units, x, htier, hnearest, hunits, hkeeps⟩ :=
    (tierOfTenths_account "fast" 22517998136852488).2 (by decide +kernel)
  obtain rfl : units = 2251799813685249 := Except.ok.inj (htier.symm.trans hread)
  rw [hwhole, hvalue] at hkeeps
  rw [hvalue] at hnearest
  exact ⟨hrefused, hread, fun h => absurd (hkeeps.2 h) (by decide), x, hnearest, by omega⟩

/-- Rounding the tenth up alters the first of these, and the cap the second, which is beyond the
    greatest tier. -/
theorem tierOfTenths_alters :
    (tierOfTenths "fast" 22517998136852488 = .ok 2251799813685249 ∧
      ⌊(22517998136852488 : Double).toRat / 10⌋₊ = 2251799813685248) ∧
    (tierOfTenths "fast" 200000000000000000000 = .ok 18446744073709551615 ∧
      ⌊(200000000000000000000 : Double).toRat / 10⌋₊ = 20000000000000000000) := by
  have hfirst := floor_toRat_div_ten (x := 22517998136852488) (by decide +kernel)
  have hgreat := floor_toRat_div_ten (x := 200000000000000000000) (by decide +kernel)
  rw [hfirst, hgreat]
  exact ⟨⟨by decide +kernel, by decide +kernel⟩, by decide +kernel, by decide +kernel⟩

end FeeOracle
