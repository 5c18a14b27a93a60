/-!
# Rounding a quotient

The integer nearest to a quotient of natural numbers. The two functions differ only where the
quotient lies halfway between two integers: `halfEven` takes the even one, `halfUp` the greater one.
-/

namespace FeeOracle

/-- The integer nearest to `num / den`; halfway, the even one. -/
def halfEven (num den : Nat) : Nat :=
  let whole := num / den
  let twice := 2 * (num % den)
  if twice < den ∨ (twice = den ∧ whole % 2 = 0) then whole else whole + 1

/-- The integer nearest to `num / den`; halfway, the greater one. -/
def halfUp (num den : Nat) : Nat := (2 * num + den) / (2 * den)

/-- A quotient without remainder needs no rounding. -/
theorem halfEven_mul_self (n : Nat) {den : Nat} (h : 0 < den) : halfEven (n * den) den = n := by
  simp [halfEven, Nat.mul_div_cancel n h, h]

/-- The rounded quotient is one of the two integers around the exact one. -/
theorem halfEven_eq_or (num den : Nat) :
    halfEven num den = num / den ∨ halfEven num den = num / den + 1 := by
  simp only [halfEven]
  split
  · exact .inl rfl
  · exact .inr rfl

/-- Twice the distance to the exact quotient is at most one unit. -/
theorem halfEven_near (num : Nat) {den : Nat} (h : 0 < den) :
    2 * num ≤ 2 * halfEven num den * den + den ∧ 2 * halfEven num den * den ≤ 2 * num + den := by
  have hdiv := Nat.div_add_mod num den
  have hmod := Nat.mod_lt num h
  simp only [halfEven]
  split
  next hlow =>
    have : 2 * (num / den) * den = 2 * (den * (num / den)) := by
      rw [Nat.mul_assoc, Nat.mul_comm den]
    omega
  next hhigh =>
    have : 2 * (num / den + 1) * den = 2 * (den * (num / den)) + 2 * den := by
      rw [Nat.mul_assoc, Nat.add_mul, Nat.mul_comm (num / den), Nat.mul_add, Nat.one_mul]
    omega

end FeeOracle
