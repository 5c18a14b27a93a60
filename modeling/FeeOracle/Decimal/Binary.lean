import FeeOracle.Decimal.Basic
import FeeOracle.Double.Arithmetic
import FeeOracle.Power

/-!
# Decimal numbers and doubles

From a double to a decimal number the power of two is traded for a power of ten, one factor at a
time, and at most about sixteen significant digits are kept. From a decimal number to a double the
whole part and the fraction are converted apart and added, and the sum is rounded at the last digit
of the fraction. Neither direction promises the nearest number.
-/

namespace FeeOracle.Decimal

/-- A coefficient and the number of its digits after the point, divided by two `steps` times. A step
    multiplies by five and appends a place while that is exact and fits; otherwise it halves,
    dropping a half. The places for all steps are counted in advance. -/
def halveRepeatedly : Nat → Nat × Nat → Nat × Nat
  | 0, result => result
  | steps + 1, (coefficient, places) =>
    if coefficient % 2 = 1 ∧ 5 * coefficient < coefficientBound then
      halveRepeatedly steps (5 * coefficient, places)
    else halveRepeatedly steps (coefficient / 2, places - 1)

/-- A coefficient and a power of ten, multiplied by two `steps` times. A step that would not fit
    divides by five, dropping the rest, and raises the power of ten. -/
def doubleRepeatedly : Nat → Nat × Nat → Nat × Nat
  | 0, result => result
  | steps + 1, (coefficient, tens) =>
    if 2 * coefficient < coefficientBound then doubleRepeatedly steps (2 * coefficient, tens)
    else doubleRepeatedly steps (coefficient / 5, tens + 1)

/-- A coefficient with at most `maxScale` places; the digits beyond are dropped one by one, each
    rounding the next. A coefficient that falls below one is zero. -/
def dropExcess : Nat → Nat → Nat × Nat
  | coefficient, 0 => (coefficient, 0)
  | coefficient, places + 1 =>
    if places + 1 ≤ maxScale then (coefficient, places + 1)
    else if coefficient < 10 then (0, 0)
    else dropExcess (halfUp coefficient 10) places

/-- A coefficient with at most as many digits as a double resolves, as far as there are places to
    drop. -/
def dropUnresolved : Nat → Nat → Nat × Nat
  | coefficient, 0 => (coefficient, 0)
  | coefficient, places + 1 =>
    if coefficient < 2 ^ (52 : Nat) then (coefficient, places + 1)
    else dropUnresolved (halfUp coefficient 10) places

/-- The decimal number for a magnitude, in canonical form. -/
def ofParts? (negative : Bool) (coefficient places : Nat) : Option Decimal :=
  let (coefficient, places) := dropExcess coefficient places
  let (coefficient, places) := dropUnresolved coefficient places
  let (coefficient, places) := stripZeros coefficient places
  of? negative coefficient places

/-- The decimal number for a double; none for what is not finite or too large. -/
def ofDouble? (x : Double) : Option Decimal :=
  if !x.isFinite then none
  else
    let binade := x.magnitude / 2 ^ (52 : Nat)
    let significand :=
      if binade = 0 then x.magnitude else 2 ^ (52 : Nat) + x.magnitude % 2 ^ (52 : Nat)
    let exponent := if binade = 0 then 1 else binade
    if exponent ≤ 1075 then
      let (coefficient, places) := halveRepeatedly (1075 - exponent) (significand, 1075 - exponent)
      ofParts? x.negative coefficient places
    else
      let (coefficient, tens) := doubleRepeatedly (exponent - 1075) (significand, 0)
      if coefficient * 10 ^ tens < coefficientBound then
        ofParts? x.negative (coefficient * 10 ^ tens) 0
      else none

/-- The double for the magnitude of a decimal number. -/
def magnitudeToDouble (x : Decimal) : Double :=
  let whole := Double.ofNat (x.coefficient / 10 ^ x.scale)
  let fraction := Double.ofNat (x.coefficient % 10 ^ x.scale) / Double.ofNat (10 ^ x.scale)
  if fraction.magnitude = 0 then whole
  else
    let power := Double.scaleByPower 1 10 x.scale
    Double.ofNat ((whole + fraction) * power).roundNat / power

/-- The double for a decimal number. -/
def toDouble (x : Decimal) : Double :=
  if x.negative then -magnitudeToDouble x else magnitudeToDouble x

example : (ofDouble? 0.1).map text = some "0.1" := by decide +kernel
example : (ofDouble? 1e28).map text = some "9999999999999999583119736832" := by decide +kernel
example : ofDouble? 1e29 = none := by decide +kernel
example : toDouble { negative := true, coefficient := 125, scale := 2 } = -1.25 := by decide +kernel

end FeeOracle.Decimal
