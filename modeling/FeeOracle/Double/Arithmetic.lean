import FeeOracle.Double.Order
import FeeOracle.Double.Rounding
import FeeOracle.Power

/-!
# Arithmetic on doubles

Each operation computes exactly and rounds once. Operations without a meaningful result, and those
on something that is not a number, give `nan`.
-/

namespace FeeOracle.Double

/-- The same magnitude with the opposite sign. -/
def neg (x : Double) : Double := { x with negative := !x.negative }

/-- The same magnitude without the sign. -/
def abs (x : Double) : Double := { x with negative := false }

/-- The sum. An exact sum of zero is negative only if both terms are. -/
def add (x y : Double) : Double :=
  if x.isNaN || y.isNaN then nan
  else if x.isInfinite then
    if y.isInfinite && x.negative != y.negative then nan else x
  else if y.isInfinite then y
  else
    let sum := x.value + y.value
    if sum = 0 then { zero with negative := x.negative && y.negative }
    else ofUnits (sum < 0) sum.natAbs 1

/-- The difference. -/
def sub (x y : Double) : Double := add x y.neg

/-- The product. -/
def mul (x y : Double) : Double :=
  let negative := x.negative != y.negative
  if x.isNaN || y.isNaN then nan
  else if x.isInfinite || y.isInfinite then
    if x.magnitude = 0 ∨ y.magnitude = 0 then nan else { infinity with negative := negative }
  else ofUnits negative (x.units * y.units) unitsPerOne

/-- The quotient. -/
def div (x y : Double) : Double :=
  let negative := x.negative != y.negative
  if x.isNaN || y.isNaN then nan
  else if x.isInfinite then
    if y.isInfinite then nan else { infinity with negative := negative }
  else if y.isInfinite then { zero with negative := negative }
  else if y.magnitude = 0 then
    if x.magnitude = 0 then nan else { infinity with negative := negative }
  else ofUnits negative (x.units * unitsPerOne) y.units

instance : Neg Double := ⟨neg⟩
instance : Add Double := ⟨add⟩
instance : Sub Double := ⟨sub⟩
instance : Mul Double := ⟨mul⟩
instance : Div Double := ⟨div⟩

/-- The greatest natural number at most the absolute value of a finite double. -/
def floorNat (x : Double) : Nat := x.units / unitsPerOne

/-- The integer nearest to the absolute value of a finite double, halfway the greater one. -/
def roundNat (x : Double) : Nat := halfUp x.units unitsPerOne

/-- `scale · base ^ exponent` by repeated squaring, each product rounded. -/
def scaleByPower (scale base : Double) (exponent : Nat) : Double :=
  if h : exponent = 0 then scale
  else scaleByPower (if exponent % 2 = 1 then scale * base else scale) (base * base) (exponent / 2)
termination_by exponent
decreasing_by omega

example : (0.1 + 0.2 : Double) = 0.30000000000000004 := by decide +kernel
example : (1e308 + 1e308 : Double) = infinity := by decide +kernel
example : (5e-324 / 2 : Double) = 0 := by decide +kernel

end FeeOracle.Double
