import FeeOracle.Decimal.Basic
import FeeOracle.Power
import FeeOracle.Rounding

/-!
# The decimal number nearest to a quotient

Products and quotients of decimal numbers keep as many digits after the point as fit, and round the
rest to even. Both are the nearest number to an exact quotient of natural numbers, so one function
serves them.
-/

namespace FeeOracle.Decimal

/-- The number nearest to `num / den` with `scale` digits after the point, or with fewer if the
    coefficient would not fit; none if even the whole number does not. -/
def nearestWithin? (negative : Bool) (num den : Nat) : Nat → Option Decimal
  | 0 => of? negative (halfEven num den) 0
  | scale + 1 =>
    match of? negative (halfEven (num * 10 ^ (scale + 1)) den) (scale + 1) with
    | some x => some x
    | none => nearestWithin? negative num den scale

/-- The number nearest to `num / den`, with as many digits after the point as fit. -/
def nearest? (negative : Bool) (num den : Nat) : Option Decimal :=
  nearestWithin? negative num den maxScale

/-- A natural number as a decimal number, if it is in range. -/
def ofNat? (n : Nat) : Option Decimal := of? false n 0

/-- The product, rounded once. -/
def mul? (x y : Decimal) : Option Decimal :=
  nearest? (x.negative != y.negative) (x.coefficient * y.coefficient) (10 ^ (x.scale + y.scale))

/-- The quotient, rounded once; there is none by zero. -/
def div? (x y : Decimal) : Option Decimal :=
  if y.isZero then none
  else
    nearest? (x.negative != y.negative) (x.coefficient * 10 ^ y.scale)
      (y.coefficient * 10 ^ x.scale)

/-- The coefficient rounded to even at the digit that the new scale leaves last. -/
def roundedCoefficient (x : Decimal) (places : Nat) : Nat :=
  halfEven x.coefficient (10 ^ (x.scale - places))

theorem roundedCoefficient_le (x : Decimal) (places : Nat) :
    x.roundedCoefficient places ≤ x.coefficient := by
  unfold roundedCoefficient
  cases hdrop : x.scale - places with
  | zero => simpa using Nat.le_of_eq (halfEven_mul_self x.coefficient Nat.one_pos)
  | succ drop =>
    have hten : 10 ≤ 10 ^ (drop + 1) := by
      rw [Nat.pow_succ]
      exact Nat.le_mul_of_pos_left 10 (Nat.pow_pos (by decide))
    generalize 10 ^ (drop + 1) = den at hten ⊢
    have hdiv := Nat.div_add_mod x.coefficient den
    have hmod := Nat.mod_lt x.coefficient (show 0 < den by omega)
    simp only [halfEven]
    split
    · exact Nat.div_le_self ..
    next hround =>
      have hrest : 0 < x.coefficient % den := by omega
      have hwhole : x.coefficient / den ≤ den * (x.coefficient / den) :=
        Nat.le_mul_of_pos_left _ (by omega)
      omega

/-- The number with at most `places` digits after the point, rounded to even. -/
def roundTo (places : Nat) (x : Decimal) : Decimal where
  negative := x.negative && x.roundedCoefficient places != 0
  coefficient := x.roundedCoefficient places
  scale := min places x.scale
  coefficient_lt := Nat.lt_of_le_of_lt (roundedCoefficient_le ..) x.coefficient_lt
  scale_le := Nat.le_trans (Nat.min_le_right ..) x.scale_le

example : (roundTo 1 { negative := false, coefficient := 125, scale := 2 }).text = "1.2" := by
  decide +kernel
example : ((nearest? false 2 3).map text) = some "0.6666666666666666666666666667" := by
  decide +kernel
example : nearest? false (2 ^ (96 : Nat)) 1 = none := by decide +kernel

end FeeOracle.Decimal
