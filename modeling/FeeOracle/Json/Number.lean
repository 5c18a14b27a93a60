import FeeOracle.Double.Arithmetic
import FeeOracle.Json.Written
import FeeOracle.Power

/-!
# The value of a written number

A whole number within 64 bits is exact. Any other number is the double of its leading digits, as
many as fit into 64 bits, multiplied or divided once by a power of ten; the value may therefore be
one step away from the nearest double. A number beyond the range of doubles has no value.
-/

namespace FeeOracle.Json

open Text

/-- Significands and natural numbers lie below this number. -/
def wordBound : Nat := 2 ^ (64 : Nat)

/-- Appends digits to a significand while it fits; the answer also tells what is left. -/
def takeFitting (significand : Nat) : List Char → Nat × List Char
  | [] => (significand, [])
  | c :: rest =>
    let longer := 10 * significand + digitValue c
    if longer < wordBound then takeFitting longer rest else (significand, c :: rest)

/-- A double divided by a power of ten; beyond the powers that are doubles themselves it is divided
    in steps. -/
def divideByPower (x : Double) (exponent : Nat) : Double :=
  if exponent ≤ 308 then x / Double.ofNat (10 ^ exponent)
  else if x.magnitude = 0 then x
  else divideByPower (x / Double.ofNat (10 ^ (308 : Nat))) (exponent - 308)
termination_by exponent

/-- A significand times a power of ten, rounded in two steps; none beyond the range of doubles. -/
def scaled? (significand : Nat) (exponent : Int) : Option Double :=
  let x := Double.ofNat significand
  if exponent < 0 then some (divideByPower x (-exponent).toNat)
  else if significand = 0 then some x
  else if 308 < exponent then none
  else
    let y := x * Double.ofNat (10 ^ exponent.toNat)
    if y.isInfinite then none else some y

/-- The greatest exponent that is taken at its word. -/
def exponentBound : Nat := 2 ^ (31 : Nat)

/-- The double that a number with a fraction or an exponent, or a whole number beyond 64 bits,
    stands for. -/
def Numeral.double? (numeral : Numeral) : Option Double := do
  let (significand, dropped) := takeFitting 0 numeral.whole
  let (significand, rest) := takeFitting significand numeral.fraction
  let shift : Int := (dropped.length : Int) - ((numeral.fraction.length - rest.length : Nat) : Int)
  let size ← match numeral.exponent with
    | none => scaled? significand shift
    | some (negative, digits) =>
      let exponent := digitsValue digits
      if exponentBound ≤ exponent then
        if negative ∨ significand = 0 then some Double.zero else none
      else scaled? significand (if negative then shift - exponent else shift + exponent)
  some (if numeral.negative then -size else size)

/-- The value of a written number, if it has one. -/
def Numeral.datum? (numeral : Numeral) : Option Datum :=
  let size := digitsValue numeral.whole
  if numeral.fraction ≠ [] ∨ numeral.exponent.isSome then numeral.double?.map .double
  else if numeral.negative then
    if 0 < size ∧ size ≤ 2 ^ (63 : Nat) then some (.integer (-(size : Int)))
      else numeral.double?.map .double
  else if size < wordBound then some (.integer size)
  else numeral.double?.map .double

end FeeOracle.Json
