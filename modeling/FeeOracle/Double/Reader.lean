import FeeOracle.Double.Rounding
import FeeOracle.Text.Digits

/-!
# Reading doubles

A written double is an optional sign and either a name (`inf`, `infinity`, `nan`, in any case) or
digits with at most one decimal point and an optional exponent. At least one digit is needed, and
the value read is the double nearest to the number written.
-/

namespace FeeOracle.Double

open Text

/-- A sign in front of a text: is it negative, and what follows? -/
def splitSign : List Char → Bool × List Char
  | '+' :: rest => (false, rest)
  | '-' :: rest => (true, rest)
  | cs => (false, cs)

/-- An exponent: a sign and digits, nothing else. -/
def readExponent? (cs : List Char) : Option Int :=
  let (negative, digits) := splitSign cs
  if digits ≠ [] ∧ digits.all Char.isDigit then
    let size := digitsValue digits
    some (if negative then -(size : Int) else size)
  else none

/-- An unsigned number: digits, a decimal point, an exponent. -/
def readUnsigned? (negative : Bool) (cs : List Char) : Option Double := do
  let whole := cs.takeWhile Char.isDigit
  let rest := cs.dropWhile Char.isDigit
  let (fraction, rest) := match rest with
    | '.' :: tail => (tail.takeWhile Char.isDigit, tail.dropWhile Char.isDigit)
    | _ => ([], rest)
  if whole = [] ∧ fraction = [] then none
  let exponent ← match rest with
    | [] => some 0
    | c :: tail => if c = 'e' ∨ c = 'E' then readExponent? tail else none
  some (ofScientific negative (digitsValue (whole ++ fraction)) (exponent - fraction.length))

/-- The double that a text writes. -/
def parse? (text : String) : Option Double :=
  let (negative, cs) := splitSign text.toList
  match String.ofList (cs.map Char.toLower) with
  | "inf" | "infinity" => some { infinity with negative := negative }
  | "nan" => some { nan with negative := negative }
  | _ => readUnsigned? negative cs

example : parse? "1e300" = some 1e300 := by decide +kernel
example : parse? "-NaN" = some negNaN := by decide +kernel
example : parse? "." = none := by decide +kernel

end FeeOracle.Double
