import FeeOracle.Double.Rounding
import FeeOracle.Proofs.Rounding
import Mathlib.Order.Monotone.Basic

/-!
# Rounding to the nearest magnitude

A quotient rounds to a magnitude above `m` exactly if it lies beyond the midpoint of the values of
`m` and `m + 1`, or on it with `m` odd (`lt_nearestMagnitude_iff`). Everything else about rounding
follows: it keeps the order of quotients, it leaves a value that has a magnitude alone, and it
overflows exactly from `overflowUnits` on.
-/

namespace FeeOracle

namespace Double

/-- Within one binade, and at its upper end, values are multiples of one power of two. -/
theorem magnitudeUnits_binade (shift significand : Nat) (hle : significand ≤ 2 ^ (53 : Nat))
    (hnormal : shift = 0 ∨ 2 ^ (52 : Nat) ≤ significand) :
    magnitudeUnits (shift * 2 ^ (52 : Nat) + significand) = significand * 2 ^ shift := by
  unfold magnitudeUnits
  split
  next hsmall =>
    have hzero : shift = 0 := by omega
    subst hzero
    simp
  next hlarge =>
    rcases Nat.lt_or_eq_of_le hle with hlt | rfl
    · have hplace : (shift * 2 ^ (52 : Nat) + significand) / 2 ^ (52 : Nat) = shift + 1 := by omega
      have hrest : 2 ^ (52 : Nat) + (shift * 2 ^ (52 : Nat) + significand) % 2 ^ (52 : Nat) =
          significand := by
        omega
      rw [hplace, hrest, Nat.add_sub_cancel]
    · have hplace : (shift * 2 ^ (52 : Nat) + 2 ^ (53 : Nat)) / 2 ^ (52 : Nat) = shift + 2 := by
        omega
      have hrest : (shift * 2 ^ (52 : Nat) + 2 ^ (53 : Nat)) % 2 ^ (52 : Nat) = 0 := by omega
      rw [hplace, hrest, show shift + 2 - 1 = shift + 1 by omega, Nat.pow_succ]
      omega

/-- Every magnitude is a place in a binade. -/
theorem exists_binade (magnitude : Nat) :
    ∃ shift significand, magnitude = shift * 2 ^ (52 : Nat) + significand ∧
      significand < 2 ^ (53 : Nat) ∧ (shift = 0 ∨ 2 ^ (52 : Nat) ≤ significand) := by
  by_cases hsmall : magnitude < 2 ^ (52 : Nat)
  · exact ⟨0, magnitude, by omega, by omega, .inl rfl⟩
  · refine ⟨magnitude / 2 ^ (52 : Nat) - 1, 2 ^ (52 : Nat) + magnitude % 2 ^ (52 : Nat), ?_,
      ?_, ?_⟩ <;> omega

/-- Twice a value is again the value of a magnitude. -/
theorem exists_magnitudeUnits_eq_two_mul (magnitude : Nat) :
    ∃ doubled, magnitudeUnits doubled = 2 * magnitudeUnits magnitude := by
  obtain ⟨shift, significand, rfl, hlt, hnormal⟩ := exists_binade magnitude
  rw [magnitudeUnits_binade shift significand (Nat.le_of_lt hlt) hnormal]
  by_cases hsmall : significand < 2 ^ (52 : Nat)
  · -- A subnormal number, and twice it need not be one, but the first two binades share their step.
    have hzero : shift = 0 := by omega
    subst hzero
    have hdoubled := magnitudeUnits_binade 0 (2 * significand) (by omega) (.inl rfl)
    exact ⟨0 * 2 ^ (52 : Nat) + 2 * significand, by rw [hdoubled, Nat.mul_assoc]⟩
  · have hdoubled := magnitudeUnits_binade (shift + 1) significand (Nat.le_of_lt hlt) (by omega)
    refine ⟨(shift + 1) * 2 ^ (52 : Nat) + significand, ?_⟩
    rw [hdoubled, Nat.pow_succ, ← Nat.mul_assoc, Nat.mul_comm]

/-- A greater magnitude has a greater value. -/
theorem magnitudeUnits_strictMono : StrictMono magnitudeUnits := by
  apply strictMono_nat_of_lt_succ
  intro magnitude
  obtain ⟨shift, significand, rfl, hlt, hnormal⟩ := exists_binade magnitude
  have hnext : shift = 0 ∨ 2 ^ (52 : Nat) ≤ significand + 1 := by omega
  rw [magnitudeUnits_binade shift significand (Nat.le_of_lt hlt) hnormal, Nat.add_assoc,
    magnitudeUnits_binade shift (significand + 1) hlt hnext]
  exact (Nat.mul_lt_mul_right (Nat.two_pow_pos shift)).2 (Nat.lt_succ_self significand)

theorem magnitudeUnits_lt_succ (magnitude : Nat) :
    magnitudeUnits magnitude < magnitudeUnits (magnitude + 1) :=
  magnitudeUnits_strictMono (Nat.lt_succ_self magnitude)

/-- Rounding happens in the binade in which the rounded significand has 53 binary digits. -/
theorem exists_nearestMagnitude_eq (num den : Nat) :
    ∃ shift, nearestMagnitude num den = shift * 2 ^ (52 : Nat) + halfEven num (den * 2 ^ shift) ∧
      num / (den * 2 ^ shift) < 2 ^ (53 : Nat) ∧
      (shift = 0 ∨ 2 ^ (52 : Nat) ≤ num / (den * 2 ^ shift)) := by
  by_cases hsmall : num / den < 2 ^ (53 : Nat)
  · exact ⟨0, by simp [nearestMagnitude, hsmall], by simpa using hsmall, .inl rfl⟩
  · have hne : num / den ≠ 0 := by omega
    have hlow := Nat.log2_self_le hne
    have hhigh := Nat.lt_log2_self (n := num / den)
    have hlog : 53 ≤ (num / den).log2 := (Nat.le_log2 hne).2 (by omega)
    refine ⟨(num / den).log2 - 52, by simp [nearestMagnitude, hsmall], ?_, .inr ?_⟩
    · rw [← Nat.div_div_eq_div_mul, Nat.div_lt_iff_lt_mul (Nat.two_pow_pos _), ← Nat.pow_add]
      rwa [show 53 + ((num / den).log2 - 52) = (num / den).log2 + 1 by omega]
    · rw [← Nat.div_div_eq_div_mul, Nat.le_div_iff_mul_le (Nat.two_pow_pos _), ← Nat.pow_add]
      rwa [show 52 + ((num / den).log2 - 52) = (num / den).log2 by omega]

/-- A quotient rounds above a magnitude if it lies beyond the midpoint of its value and the next
    one, or on the midpoint if the magnitude is odd. -/
theorem lt_nearestMagnitude_iff (num magnitude : Nat) {den : Nat} (hden : 0 < den) :
    magnitude < nearestMagnitude num den ↔
      (magnitudeUnits magnitude + magnitudeUnits (magnitude + 1)) * den < 2 * num ∨
        (magnitudeUnits magnitude + magnitudeUnits (magnitude + 1)) * den = 2 * num ∧
        magnitude % 2 = 1 := by
  obtain ⟨shift, hnearest, hsmall, hnormal⟩ := exists_nearestMagnitude_eq num den
  have hstep : 0 < den * 2 ^ shift := Nat.mul_pos hden (Nat.two_pow_pos shift)
  have hnum := Nat.div_add_mod num (den * 2 ^ shift)
  have hrest := Nat.mod_lt num hstep
  have hround := halfEven_eq_or num (den * 2 ^ shift)
  have hiff := lt_halfEven_iff num (num / (den * 2 ^ shift)) hstep
  rw [hnearest]
  generalize hbelow : num / (den * 2 ^ shift) = below at *
  -- The value just below the quotient and the one just above it, in units.
  have hnext : shift = 0 ∨ 2 ^ (52 : Nat) ≤ below + 1 := by omega
  have hfloor := magnitudeUnits_binade shift below (Nat.le_of_lt hsmall) hnormal
  have hceil := magnitudeUnits_binade shift (below + 1) hsmall hnext
  rw [← Nat.add_assoc] at hceil
  have hscale (n : Nat) : n * 2 ^ shift * den = n * (den * 2 ^ shift) := by
    rw [Nat.mul_assoc, Nat.mul_comm (2 ^ shift)]
  rcases Nat.lt_trichotomy magnitude (shift * 2 ^ (52 : Nat) + below) with hlow | hhere | hhigh
  · have hleft := magnitudeUnits_strictMono hlow
    have hright : magnitudeUnits (magnitude + 1) ≤
        magnitudeUnits (shift * 2 ^ (52 : Nat) + below) :=
      magnitudeUnits_strictMono.monotone hlow
    have hmid : magnitudeUnits magnitude + magnitudeUnits (magnitude + 1) <
        2 * (below * 2 ^ shift) := by omega
    have hscaled := (Nat.mul_lt_mul_right hden).2 hmid
    have hvalue : 2 * (below * 2 ^ shift) * den = 2 * (den * 2 ^ shift * below) := by
      rw [Nat.mul_assoc, hscale, Nat.mul_comm below]
    constructor
    · intro _
      exact .inl (by omega)
    · intro _
      omega
  · subst hhere
    have hmid : (magnitudeUnits (shift * 2 ^ (52 : Nat) + below) +
        magnitudeUnits (shift * 2 ^ (52 : Nat) + below + 1)) * den =
          (2 * below + 1) * (den * 2 ^ shift) := by
      rw [hfloor, hceil, ← Nat.add_mul, hscale]
      congr 1
      omega
    have hparity : (shift * 2 ^ (52 : Nat) + below) % 2 = below % 2 := by omega
    rw [hmid, hparity, ← hiff]
    omega
  · have hleft : magnitudeUnits (shift * 2 ^ (52 : Nat) + below + 1) ≤ magnitudeUnits magnitude :=
      magnitudeUnits_strictMono.monotone hhigh
    have hright := magnitudeUnits_lt_succ magnitude
    have hmid : 2 * ((below + 1) * 2 ^ shift) ≤
        magnitudeUnits magnitude + magnitudeUnits (magnitude + 1) := by
      omega
    have hscaled := Nat.mul_le_mul_right den hmid
    have hvalue : 2 * ((below + 1) * 2 ^ shift) * den =
        2 * (den * 2 ^ shift * below + den * 2 ^ shift) := by
      rw [Nat.mul_assoc, hscale, Nat.mul_comm (below + 1), Nat.mul_add, Nat.mul_one]
    constructor
    · intro _
      omega
    · rintro (_ | _) <;> omega

/-- Rounding keeps the order of quotients. -/
theorem nearestMagnitude_mono {num den num' den' : Nat} (hden : 0 < den) (hden' : 0 < den')
    (h : num * den' ≤ num' * den) : nearestMagnitude num den ≤ nearestMagnitude num' den' := by
  refine Nat.le_of_not_lt fun hlt => ?_
  have habove := (lt_nearestMagnitude_iff num _ hden).1 hlt
  refine (Nat.lt_irrefl _) ((lt_nearestMagnitude_iff num' (nearestMagnitude num' den') hden').2 ?_)
  generalize nearestMagnitude num' den' = magnitude at *
  generalize magnitudeUnits magnitude + magnitudeUnits (magnitude + 1) = mid at *
  have hswap : mid * den * den' = mid * den' * den := Nat.mul_right_comm ..
  have hnum : 2 * num * den' ≤ 2 * num' * den := by
    rw [Nat.mul_assoc, Nat.mul_assoc]
    exact Nat.mul_le_mul_left 2 h
  rcases habove with hbeyond | ⟨hon, hodd⟩
  · have hscaled := (Nat.mul_lt_mul_right hden').2 hbeyond
    exact .inl (Nat.lt_of_mul_lt_mul_right (a := den) (by omega))
  · have hscaled : mid * den * den' = 2 * num * den' := by rw [hon]
    have hle : mid * den' ≤ 2 * num' := Nat.le_of_mul_le_mul_right (by omega) hden
    rcases Nat.lt_or_eq_of_le hle with hlt | heq
    · exact .inl hlt
    · exact .inr ⟨heq, hodd⟩

/-- A value that has a magnitude rounds to it. -/
theorem nearestMagnitude_magnitudeUnits_mul (magnitude : Nat) {den : Nat} (hden : 0 < den) :
    nearestMagnitude (magnitudeUnits magnitude * den) den = magnitude := by
  apply Nat.le_antisymm
  · refine Nat.le_of_not_lt fun hlt => ?_
    have hnext := magnitudeUnits_lt_succ magnitude
    have hmid := (Nat.mul_lt_mul_right hden).2 (show 2 * magnitudeUnits magnitude <
      magnitudeUnits magnitude + magnitudeUnits (magnitude + 1) by omega)
    rw [Nat.mul_assoc] at hmid
    have := (lt_nearestMagnitude_iff _ magnitude hden).1 hlt
    omega
  · cases magnitude with
    | zero => exact Nat.zero_le _
    | succ magnitude =>
      have hnext := magnitudeUnits_lt_succ magnitude
      have hmid := (Nat.mul_lt_mul_right hden).2
        (show magnitudeUnits magnitude + magnitudeUnits (magnitude + 1) <
          2 * magnitudeUnits (magnitude + 1) by omega)
      rw [Nat.mul_assoc] at hmid
      exact (lt_nearestMagnitude_iff _ magnitude hden).2 (.inl hmid)

/-- Rounding depends on the quotient only, and not on how it is written. -/
theorem nearestMagnitude_mul_right (num : Nat) {den factor : Nat} (hden : 0 < den)
    (hfactor : 0 < factor) :
    nearestMagnitude (num * factor) (den * factor) = nearestMagnitude num den := by
  have hscaled : 0 < den * factor := Nat.mul_pos hden hfactor
  apply Nat.le_antisymm
  · apply nearestMagnitude_mono hscaled hden
    rw [Nat.mul_right_comm, Nat.mul_assoc]
  · apply nearestMagnitude_mono hden hscaled
    rw [Nat.mul_right_comm, Nat.mul_assoc]

/-- A quotient between the values of two magnitudes rounds to a magnitude between them. -/
theorem nearestMagnitude_between {num den low high : Nat} (hden : 0 < den)
    (hlow : magnitudeUnits low * den ≤ num) (hhigh : num ≤ magnitudeUnits high * den) :
    low ≤ nearestMagnitude num den ∧ nearestMagnitude num den ≤ high := by
  constructor
  · have h := nearestMagnitude_mono hden hden (Nat.mul_le_mul_right den hlow)
    rwa [nearestMagnitude_magnitudeUnits_mul low hden] at h
  · have h := nearestMagnitude_mono hden hden (Nat.mul_le_mul_right den hhigh)
    rwa [nearestMagnitude_magnitudeUnits_mul high hden] at h

/-- The fewest units that round to infinity: those halfway between the greatest finite magnitude and
    the next one, which would be a power of two. -/
def overflowUnits : Nat := (2 ^ (54 : Nat) - 1) * 2 ^ (2044 : Nat)

/-- The rounded sum of two values lies between twice the one and twice the other. -/
theorem magnitudeUnits_nearestMagnitude_add_between {low high : Nat} (hle : low ≤ high) :
    let sum := nearestMagnitude (magnitudeUnits low + magnitudeUnits high) 1
    2 * magnitudeUnits low ≤ magnitudeUnits sum ∧ magnitudeUnits sum ≤ 2 * magnitudeUnits high := by
  intro sum
  have hunits := magnitudeUnits_strictMono.monotone hle
  obtain ⟨twiceLow, hlow⟩ := exists_magnitudeUnits_eq_two_mul low
  obtain ⟨twiceHigh, hhigh⟩ := exists_magnitudeUnits_eq_two_mul high
  have hleft : magnitudeUnits twiceLow * 1 ≤ magnitudeUnits low + magnitudeUnits high := by omega
  have hright : magnitudeUnits low + magnitudeUnits high ≤ magnitudeUnits twiceHigh * 1 := by omega
  obtain ⟨hbelow, habove⟩ := nearestMagnitude_between Nat.one_pos hleft hright
  rw [← hlow, ← hhigh]
  exact ⟨magnitudeUnits_strictMono.monotone hbelow, magnitudeUnits_strictMono.monotone habove⟩

/-- Infinity is reached exactly from `overflowUnits` on. -/
theorem infinityMagnitude_le_nearestMagnitude_iff {units : Nat} :
    infinityMagnitude ≤ nearestMagnitude units 1 ↔ overflowUnits ≤ units := by
  have hmid : magnitudeUnits (infinityMagnitude - 1) + magnitudeUnits (infinityMagnitude - 1 + 1) =
      2 * overflowUnits := by decide +kernel
  have hodd : (infinityMagnitude - 1) % 2 = 1 := by decide
  have hpos : 0 < infinityMagnitude := by decide
  have hiff := lt_nearestMagnitude_iff units (infinityMagnitude - 1) Nat.one_pos
  rw [hmid, Nat.mul_one] at hiff
  constructor
  · intro hle
    have := hiff.1 (by omega)
    omega
  · intro hle
    have := hiff.2 (by omega)
    omega

end Double
end FeeOracle
