import FeeOracle.Double.Shortest

/-!
# Written doubles

A double is written with its shortest digits. Two styles are in use: the plain one, which never has
an exponent and writes a whole number without a decimal point, and the one of data interchange,
which always shows that the number is a fraction and turns to an exponent for the very large and the
very small.
-/

namespace FeeOracle.Double

/-- The decisions of one way to write doubles. -/
structure Style where
  tie : Tie
  positional : Int → Bool
  wholeEnding : String
  nan : String
  infinity : String
  negInfinity : String

/-- Positional notation throughout, no ending on whole numbers; of two equally near numerals the one
    away from zero. -/
def Style.plain : Style where
  tie := .away
  positional := fun _ => true
  wholeEnding := ""
  nan := "NaN"
  infinity := "inf"
  negInfinity := "-inf"

/-- Positional notation from `1e-5` up to below `1e16`, elsewhere an exponent with its sign; whole
    numbers end in `.0`; what is not finite cannot be said. -/
def Style.interchange : Style where
  tie := .even
  positional := fun exponent => -5 ≤ exponent && exponent < 16
  wholeEnding := ".0"
  nan := "null"
  infinity := "null"
  negInfinity := "null"

/-- Digits in positional notation; `place` digits stand before the decimal point. -/
def positionalText (wholeEnding : String) (digits : List Char) (place : Int) : String :=
  if place ≤ 0 then
    "0." ++ String.ofList (List.replicate (-place).toNat '0' ++ digits)
  else if digits.length ≤ place.toNat then
    String.ofList (digits ++ List.replicate (place.toNat - digits.length) '0') ++ wholeEnding
  else
    String.ofList (digits.take place.toNat) ++ "." ++ String.ofList (digits.drop place.toNat)

/-- Digits with an exponent; the decimal point follows the first digit. -/
def exponentText (digits : List Char) (exponent : Int) : String :=
  let fraction := digits.drop 1
  let point := if fraction.isEmpty then "" else "." ++ String.ofList fraction
  let sign := if exponent < 0 then "-" else "+"
  String.ofList (digits.take 1) ++ point ++ "e" ++ sign ++ toString exponent.natAbs

/-- The text of a positive finite magnitude. -/
def magnitudeText (style : Style) (magnitude : Nat) : String :=
  let numeral := shortest style.tie magnitude
  let digits := Nat.toDigits 10 numeral.significand
  let place := numeral.exponent + digits.length
  if style.positional (place - 1) then positionalText style.wholeEnding digits place
  else exponentText digits (place - 1)

/-- The text of a double. -/
def write (style : Style) (x : Double) : String :=
  if x.isNaN then style.nan
  else if x.isInfinite then if x.negative then style.negInfinity else style.infinity
  else
    let sign := if x.negative then "-" else ""
    if x.magnitude = 0 then sign ++ "0" ++ style.wholeEnding
    else sign ++ magnitudeText style x.magnitude

/-- The plain text of a double. -/
def text (x : Double) : String := write .plain x

instance : ToString Double := ⟨text⟩

example : text 1e21 = "1000000000000000000000" := by decide +kernel
example : text (ofScientific true 1 (-7)) = "-0.0000001" := by decide +kernel
example : write .interchange 1e16 = "1e+16" := by decide +kernel
example : write .interchange 0.00001234 = "0.00001234" := by decide +kernel
example : write .interchange 40 = "40.0" := by decide +kernel

end FeeOracle.Double
