import FeeOracle.Datum.Basic
import FeeOracle.Double.Reader
import FeeOracle.Power

/-!
# Numbers in configurations

Whole numbers of 64 bits with a sign, in decimal or, without a sign, in three other bases; and
doubles. Between two digits an underscore may stand. A decimal number has no superfluous zero in
front of it.
-/

namespace FeeOracle.Toml

open FeeOracle.Text (digitValue digitsValue hexValue?)

/-- The digits after the first one, with underscores between them left out; none if an underscore
    does not stand between two digits. -/
def readMoreDigits (isDigit : Char → Bool) (before : List Char) :
    List Char → Option (List Char × List Char)
  | [] => some (before.reverse, [])
  | '_' :: c :: rest => if isDigit c then readMoreDigits isDigit (c :: before) rest else none
  | c :: rest =>
    if isDigit c then readMoreDigits isDigit (c :: before) rest
    else if c = '_' then none
    else some (before.reverse, c :: rest)

/-- The digits in front; underscores stand between two of them only. -/
def readDigits? (isDigit : Char → Bool) : List Char → Option (List Char × List Char)
  | [] => none
  | c :: rest => if isDigit c then readMoreDigits isDigit [c] rest else none

/-- The digits of a decimal number before its point: a zero, or digits that do not begin with
    one. -/
def readWhole? (cs : List Char) : Option (List Char × List Char) :=
  match cs with
  | '0' :: rest => some (['0'], rest)
  | _ => readDigits? Char.isDigit cs

/-- Whole numbers are below this bound, and not below its negative. -/
def integerBound : Nat := 2 ^ (63 : Nat)

/-- The whole numbers that there are. -/
def inRange (value : Int) : Bool := -(integerBound : Int) ≤ value && value < integerBound

/-- A whole number of another base than ten, after the mark of its base. -/
def readBased? (base : Nat) (cs : List Char) : Option (Datum × List Char) := do
  let isDigit := fun c => match hexValue? c with
    | some value => decide (value < base)
    | none => false
  let (digits, rest) ← readDigits? isDigit cs
  let value : Int := digits.foldl (fun n c => base * n + (hexValue? c).getD 0) (0 : Nat)
  if inRange value then some (.integer value, rest) else none

/-- The exponent of a double as it will be read, if there is one. -/
def readExponent? (cs : List Char) : Option (List Char × List Char) :=
  match cs with
  | c :: rest =>
    if c = 'e' ∨ c = 'E' then do
      let (sign, rest) := match rest with
        | '+' :: rest => ([], rest)
        | '-' :: rest => (['-'], rest)
        | _ => ([], rest)
      let (digits, rest) ← readDigits? Char.isDigit rest
      some ('e' :: sign ++ digits, rest)
    else some ([], cs)
  | [] => some ([], [])

/-- What follows the whole digits of a double as it will be read; empty for a whole number. -/
def readFraction? (cs : List Char) : Option (List Char × List Char) :=
  match cs with
  | '.' :: rest => do
    let (digits, rest) ← readDigits? Char.isDigit rest
    let (exponent, rest) ← readExponent? rest
    some ('.' :: digits ++ exponent, rest)
  | _ => readExponent? cs

/-- A decimal number after its sign. A double that is too large is refused only without a minus
    sign. -/
def readDecimal? (negative : Bool) (cs : List Char) : Option (Datum × List Char) := do
  let (whole, rest) ← readWhole? cs
  let (fraction, rest) ← readFraction? rest
  if fraction = [] then
    let size : Int := digitsValue whole
    let value := if negative then -size else size
    if inRange value then some (.integer value, rest) else none
  else
    let value ← Double.readUnsigned? negative (whole ++ fraction)
    if value = Double.infinity then none else some (.double value, rest)

/-- A number after its sign, or a name for a double that is no number or infinite. -/
def readUnsigned? (negative : Bool) : List Char → Option (Datum × List Char)
  | 'i' :: 'n' :: 'f' :: rest => some (.double { Double.infinity with negative := negative }, rest)
  | 'n' :: 'a' :: 'n' :: rest => some (.double { Double.nan with negative := negative }, rest)
  | cs => readDecimal? negative cs

/-- A number: in another base, or an optional sign and digits. -/
def readNumber? : List Char → Option (Datum × List Char)
  | '0' :: 'x' :: rest => readBased? 16 rest
  | '0' :: 'o' :: rest => readBased? 8 rest
  | '0' :: 'b' :: rest => readBased? 2 rest
  | '+' :: rest => readUnsigned? false rest
  | '-' :: rest => readUnsigned? true rest
  | cs => readUnsigned? false cs

end FeeOracle.Toml
