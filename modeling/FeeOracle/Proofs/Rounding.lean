import FeeOracle.Rounding
import Mathlib.Algebra.Order.Field.Rat
import Mathlib.Tactic.Linarith
import Mathlib.Tactic.Ring

/-!
# Rounding to the nearest integer

What rounding to even promises of an exact value: the integer is at most a half away, and it is even
if it is a half away (`IsNearestEven`). That is all that is needed of it. It keeps the order of
values, leaves an integer alone, and says from which value on a given even integer is reached.
-/

namespace FeeOracle

/-- A quotient rounds above `n` if it lies beyond the midpoint of `n` and `n + 1`, or on it with `n`
    odd. -/
theorem lt_halfEven_iff (num n : Nat) {den : Nat} (hden : 0 < den) :
    n < halfEven num den ↔
      (2 * n + 1) * den < 2 * num ∨ (2 * n + 1) * den = 2 * num ∧ n % 2 = 1 := by
  have hnum := Nat.div_add_mod num den
  have hrest := Nat.mod_lt num hden
  have hround := halfEven_eq_or num den
  rcases Nat.lt_trichotomy n (num / den) with hlow | hhere | hhigh
  · have hmid : (2 * n + 2) * den ≤ 2 * (num / den) * den := Nat.mul_le_mul_right den (by omega)
    have hwhole : 2 * (num / den) * den = 2 * (den * (num / den)) := by
      rw [Nat.mul_assoc, Nat.mul_comm den]
    have hsplit : (2 * n + 2) * den = (2 * n + 1) * den + den := by rw [← Nat.succ_mul]
    constructor
    · intro _
      exact .inl (by omega)
    · intro _
      omega
  · subst hhere
    have hmid : (2 * (num / den) + 1) * den = 2 * (den * (num / den)) + den := by
      rw [Nat.succ_mul, Nat.mul_assoc, Nat.mul_comm den]
    rw [hmid]
    simp only [halfEven]
    split <;> omega
  · have hmid : (2 * (num / den) + 3) * den ≤ (2 * n + 1) * den :=
      Nat.mul_le_mul_right den (by omega)
    have hwhole : (2 * (num / den) + 3) * den = 2 * (den * (num / den)) + 3 * den := by
      rw [Nat.add_mul, Nat.mul_assoc, Nat.mul_comm den]
    constructor
    · intro _
      omega
    · rintro (_ | _) <;> omega

/-- Is `n` the natural number nearest to `value`, and the even one if there are two? -/
structure IsNearestEven (value : ℚ) (n : ℕ) : Prop where
  near : |(n : ℚ) - value| ≤ 1 / 2
  even_of_tie : |(n : ℚ) - value| = 1 / 2 → n % 2 = 0

/-- Halfway between two integers the even one is taken. -/
theorem halfEven_mod_two_of_tie {num den : ℕ} (hden : 0 < den)
    (htie : 2 * halfEven num den * den = 2 * num + den ∨
      2 * num = 2 * halfEven num den * den + den) :
    halfEven num den % 2 = 0 := by
  have hself := lt_halfEven_iff num (halfEven num den) hden
  have hbefore := lt_halfEven_iff num (halfEven num den - 1) hden
  generalize halfEven num den = n at *
  rcases htie with hup | hdown
  · -- Rounded up from the integer before, which is odd then.
    cases n with
    | zero => omega
    | succ m =>
      rw [Nat.add_sub_cancel] at hbefore
      have hmid : 2 * (m + 1) * den = (2 * m + 1) * den + den := by ring
      omega
  · have hmid : (2 * n + 1) * den = 2 * n * den + den := by ring
    omega

/-- Rounding a quotient to even gives the integer nearest to it. -/
theorem isNearestEven_halfEven (num : ℕ) {den : ℕ} (hden : 0 < den) :
    IsNearestEven (num / den) (halfEven num den) := by
  have hpos : (0 : ℚ) < den := by exact_mod_cast hden
  obtain ⟨hbelow, habove⟩ := halfEven_near num hden
  have hlow : (num : ℚ) / den ≤ halfEven num den + 1 / 2 := by
    have hscaled : 2 * (num : ℚ) ≤ 2 * halfEven num den * den + den := by exact_mod_cast hbelow
    rw [div_le_iff₀ hpos]
    linarith
  have hhigh : (halfEven num den : ℚ) - 1 / 2 ≤ num / den := by
    have hscaled : 2 * (halfEven num den : ℚ) * den ≤ 2 * num + den := by exact_mod_cast habove
    rw [le_div_iff₀ hpos]
    linarith
  refine ⟨abs_le.2 ⟨by linarith, by linarith⟩, fun htie => halfEven_mod_two_of_tie hden ?_⟩
  rcases eq_or_eq_neg_of_abs_eq htie with hup | hdown
  · have hmid : (num : ℚ) = (halfEven num den - 1 / 2) * den := by
      rw [← div_eq_iff hpos.ne']
      linarith
    have hscaled : 2 * (halfEven num den : ℚ) * den = 2 * num + den := by linarith
    exact .inl (by exact_mod_cast hscaled)
  · have hmid : (num : ℚ) = (halfEven num den + 1 / 2) * den := by
      rw [← div_eq_iff hpos.ne']
      linarith
    have hscaled : 2 * (num : ℚ) = 2 * halfEven num den * den + den := by linarith
    exact .inr (by exact_mod_cast hscaled)

namespace IsNearestEven

variable {value value' : ℚ} {n n' : ℕ}

theorem le (h : IsNearestEven value n) : (n : ℚ) ≤ value + 1 / 2 := by
  linarith [(abs_le.1 h.near).2]

theorem ge (h : IsNearestEven value n) : value ≤ n + 1 / 2 := by
  linarith [(abs_le.1 h.near).1]

/-- Rounding keeps the order of values. -/
theorem mono (h : IsNearestEven value n) (h' : IsNearestEven value' n') (hle : value ≤ value') :
    n ≤ n' := by
  by_contra hlt
  have hsucc : (n' : ℚ) + 1 ≤ n := by exact_mod_cast Nat.lt_of_not_le hlt
  have hbelow := h.le
  have habove := h'.ge
  -- The two integers are neighbours, with both values midway between them, so both are even.
  have heven := h.even_of_tie (by rw [abs_of_nonneg] <;> linarith)
  have heven' := h'.even_of_tie (by rw [abs_of_neg] <;> linarith)
  have hnext : n = n' + 1 := by
    have : (n : ℚ) = n' + 1 := by linarith
    exact_mod_cast this
  omega

theorem unique (h : IsNearestEven value n) (h' : IsNearestEven value n') : n = n' :=
  Nat.le_antisymm (h.mono h' le_rfl) (h'.mono h le_rfl)

theorem natCast (n : ℕ) : IsNearestEven n n :=
  ⟨by norm_num, by norm_num⟩

/-- An even integer is reached from the midpoint below it on. -/
theorem le_iff_of_even (h : IsNearestEven value n) {m : ℕ} (hm : m % 2 = 0) :
    m ≤ n ↔ (m : ℚ) - 1 / 2 ≤ value := by
  constructor
  · intro hle
    have hcast : (m : ℚ) ≤ n := by exact_mod_cast hle
    linarith [h.le]
  · intro hle
    by_contra hlt
    have hsucc : (n : ℚ) + 1 ≤ m := by exact_mod_cast Nat.lt_of_not_le hlt
    have habove := h.ge
    have heven := h.even_of_tie (by rw [abs_of_neg] <;> linarith)
    have hnext : m = n + 1 := by
      have : (m : ℚ) = n + 1 := by linarith
      exact_mod_cast this
    omega

/-- Only what is above a half rounds to more than zero. -/
theorem pos_iff (h : IsNearestEven value n) : 0 < n ↔ 1 / 2 < value := by
  constructor
  · intro hpos
    by_contra hle
    have hone : (1 : ℚ) ≤ n := by exact_mod_cast hpos
    have hbelow := h.le
    have heven := h.even_of_tie (by rw [abs_of_nonneg] <;> linarith)
    have hodd : n = 1 := by
      have : (n : ℚ) = 1 := by linarith
      exact_mod_cast this
    omega
  · intro hlt
    by_contra hzero
    have hcast : (n : ℚ) = 0 := by exact_mod_cast Nat.eq_zero_of_not_pos hzero
    linarith [h.ge]

end IsNearestEven
end FeeOracle
