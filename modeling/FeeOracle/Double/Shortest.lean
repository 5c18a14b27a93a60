import FeeOracle.Double.Rounding
import FeeOracle.Power

/-!
# Shortest decimal digits

The decimal numeral with the fewest digits among those that read back to a given double, and the
nearest to its value among those. The reals that round to a double form an interval around it, ends
included exactly if the magnitude is even. For one digit, two digits, and so on, only the two points
around the value on the decimal grid need to be tried: if any point of the grid lies in the
interval, one of those two does.
-/

namespace FeeOracle.Double

/-- The numeral `significand · 10 ^ exponent`. -/
structure Numeral where
  significand : Nat
  exponent : Int
deriving DecidableEq, Repr

/-- Which of two equally near numerals is taken. -/
inductive Tie
  | away
  | even
deriving DecidableEq, Repr

/-- The number of digits before the decimal point of a positive value; below one tenth it is
    negative. -/
def pointPlace (magnitude : Nat) : Int :=
  (decimalLength (magnitudeUnits magnitude * 10 ^ (400 : Nat) / unitsPerOne) : Int) - 400

/-- The nearer of the two grid points around the value that reads back, on the grid of step
    `10 ^ exponent`. -/
def onGrid? (tie : Tie) (magnitude : Nat) (exponent : Int) : Option Nat :=
  let up := 10 ^ (-exponent).toNat
  let step := 10 ^ exponent.toNat * unitsPerOne
  let value := magnitudeUnits magnitude * up
  let twiceLow := (magnitudeUnits (magnitude - 1) + magnitudeUnits magnitude) * up
  let twiceHigh := (magnitudeUnits magnitude + magnitudeUnits (magnitude + 1)) * up
  let readsBack (point : Nat) : Bool :=
    if magnitude % 2 = 0 then twiceLow ≤ 2 * point * step && 2 * point * step ≤ twiceHigh
    else twiceLow < 2 * point * step && 2 * point * step < twiceHigh
  let below := value / step
  let twiceRest := 2 * (value % step)
  let lowerFirst := twiceRest < step || (twiceRest == step && tie == .even && below % 2 == 0)
  let first := if lowerFirst then below else below + 1
  let second := if lowerFirst then below + 1 else below
  if readsBack first then some first else if readsBack second then some second else none

/-- The numeral without the zeros at its end; `digits` bounds how many there can be. -/
def stripZeros (digits : Nat) (numeral : Numeral) : Numeral :=
  match digits with
  | 0 => numeral
  | digits + 1 =>
    if numeral.significand % 10 = 0 ∧ numeral.significand ≠ 0 then
      stripZeros digits ⟨numeral.significand / 10, numeral.exponent + 1⟩
    else numeral

/-- The shortest numeral that reads back to a positive finite magnitude. Seventeen digits always
    suffice. -/
def shortest (tie : Tie) (magnitude : Nat) : Numeral :=
  let place := pointPlace magnitude
  let found := (List.range 17).findSome? fun (n : Nat) =>
    let exponent : Int := place - ((n + 1 : Nat) : Int)
    (onGrid? tie magnitude exponent).map fun significand => Numeral.mk significand exponent
  stripZeros 18 (found.getD ⟨0, 0⟩)

example : shortest .away (ofNat 100).magnitude = ⟨1, 2⟩ := by decide +kernel
example : shortest .away 1 = ⟨5, -324⟩ := by decide +kernel
example : shortest .away (ofScientific false 3 (-1)).magnitude = ⟨3, -1⟩ := by decide +kernel

end FeeOracle.Double
