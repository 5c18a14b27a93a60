import FeeOracle.Double.Arithmetic
import FeeOracle.Proofs.Double.Nearest

/-!
# Arithmetic on doubles without a sign

Between finite doubles without a sign no operation has a special case but division by zero. Each one
is its exact result in units, rounded once.
-/

namespace FeeOracle.Double

/-- Is the double finite and without a sign? -/
structure IsUnsigned (x : Double) : Prop where
  sign : x.negative = false
  finite : x.isFinite = true

variable {x y : Double}

theorem IsUnsigned.isNaN_eq (hx : IsUnsigned x) : x.isNaN = false := by
  have hfinite := isFinite_iff.1 hx.finite
  simp only [isNaN, decide_eq_false_iff_not]
  omega

theorem IsUnsigned.isInfinite_eq (hx : IsUnsigned x) : x.isInfinite = false := by
  have hfinite := isFinite_iff.1 hx.finite
  simp only [isInfinite, beq_eq_false_iff_ne]
  omega

theorem add_of_isUnsigned (hx : IsUnsigned x) (hy : IsUnsigned y) :
    x + y = ofUnits false (x.units + y.units) 1 := by
  have hsum : x.value + y.value = ((x.units + y.units : ℕ) : ℤ) := by
    simp [value, hx.sign, hy.sign]
  have hsign : ¬ ((x.units + y.units : ℕ) : ℤ) < 0 := by omega
  show add x y = _
  simp only [add, hx.isNaN_eq, hy.isNaN_eq, hx.isInfinite_eq, hy.isInfinite_eq, hx.sign,
    hy.sign, hsum, hsign,
    Bool.or_self, Bool.false_eq_true, if_false, Bool.and_self, Int.natAbs_natCast, decide_false]
  split
  next hzero =>
    rw [Nat.cast_eq_zero.1 hzero]
    decide +kernel
  next => rfl

theorem mul_of_isUnsigned (hx : IsUnsigned x) (hy : IsUnsigned y) :
    x * y = ofUnits false (x.units * y.units) unitsPerOne := by
  show mul x y = _
  simp only [mul, hx.isNaN_eq, hy.isNaN_eq, hx.isInfinite_eq, hy.isInfinite_eq, hx.sign,
    hy.sign, Bool.or_self, Bool.false_eq_true, if_false, bne_self_eq_false]

theorem div_of_isUnsigned (hx : IsUnsigned x) (hy : IsUnsigned y) (hpos : y.magnitude ≠ 0) :
    x / y = ofUnits false (x.units * unitsPerOne) y.units := by
  show div x y = _
  simp only [div, hx.isNaN_eq, hy.isNaN_eq, hx.isInfinite_eq, hy.isInfinite_eq, hx.sign, hy.sign,
    hpos, Bool.or_self, Bool.false_eq_true, if_false, bne_self_eq_false]

end FeeOracle.Double
