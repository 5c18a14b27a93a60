import FeeOracle.Decimal.Binary
import FeeOracle.Decimal.Nearest
import FeeOracle.Double.Text
import FeeOracle.Power

/-!
# Conversion

A gas price in the chain's own unit is expressed in the smallest unit of another asset: times the
price of the chain's coin, shifted by the difference of the decimals, divided by the price of the
asset. It is computed in decimal numbers, and the amount is written with at most 18 digits after the
point and no zeros at its end.
-/

namespace FeeOracle.Denomination

/-- The two prices that a conversion takes. -/
inductive PriceRole
  | native
  | asset
deriving DecidableEq, Repr

/-- The name in a message. -/
def PriceRole.name : PriceRole → String
  | native => "native"
  | asset => "asset"

/-- Why an amount cannot be converted. -/
inductive ConversionError
  | invalidPrice (role : PriceRole) (price : Double)
  | shiftOutOfRange (shift : Int)
  | overflow
deriving DecidableEq, Repr

/-- The text of the error. -/
def ConversionError.message : ConversionError → String
  | invalidPrice role price => s!"{role.name} price {price} cannot be used for conversion"
  | shiftOutOfRange shift => s!"decimal shift of 10^{shift} is out of range"
  | overflow => "conversion overflowed"

/-- The decimal number of a price, which has to be positive. -/
def decimalPrice (role : PriceRole) (price : Double) : Except ConversionError Decimal :=
  if !price.isFinite ∨ Double.le price 0 = true then .error (.invalidPrice role price)
  else
    match Decimal.ofDouble? price with
    | some x => if x.isZero then .error (.invalidPrice role price) else .ok x
    | none => .error (.invalidPrice role price)

/-- The power of ten of a shift as a decimal number. -/
def powerOfTen (shift : Int) : Except ConversionError Decimal :=
  let power := if 0 ≤ shift then Decimal.of? false (10 ^ min shift.natAbs 29) 0
    else Decimal.of? false 1 shift.natAbs
  match power with
  | some x => .ok x
  | none => .error (.shiftOutOfRange shift)

/-- The greatest number of digits of an amount after its point. -/
def maxFractionDigits : Nat := 18

/-- The text of an amount: rounded to the digits that are kept, without zeros at its end. -/
def amountText (amount : Decimal) : String := (amount.roundTo maxFractionDigits).canonical.text

/-- The amount itself, before it is rounded for writing; each of its three steps rounds to what a
    decimal number holds. -/
def amount? (fast : Nat) (native asset power : Decimal) : Option Decimal := do
  let fast ← Decimal.ofNat? fast
  let value ← fast.mul? native
  let shifted ← value.mul? power
  shifted.div? asset

/-- The fast tier expressed in an asset. A price that cannot be used is reported before a shift that
    is out of range, and that before an overflow. -/
def denominate (fast : Nat) (nativePrice assetPrice : Double)
    (assetDecimals nativeUnitDecimals : Nat) : Except ConversionError String := do
  let native ← decimalPrice .native nativePrice
  let asset ← decimalPrice .asset assetPrice
  let power ← powerOfTen ((assetDecimals : Int) - nativeUnitDecimals)
  match amount? fast native asset power with
  | some amount => .ok (amountText amount)
  | none => .error .overflow

example : (denominate 40 3000 1 6 9).toOption = some "120" := by decide +kernel
example : (denominate 1 1 3 18 18).toOption = some "0.333333333333333333" := by decide +kernel

end FeeOracle.Denomination
