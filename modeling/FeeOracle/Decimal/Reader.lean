import FeeOracle.Decimal.Basic
import FeeOracle.Power
import FeeOracle.Rounding
import FeeOracle.Text.Digits

/-!
# Reading decimal numbers

A plain numeral is an optional sign, digits with at most one decimal point, and underscores anywhere
after the first digit. Digits that no longer fit after the point are dropped, and the first of them
rounds; before the point they are an error. A numeral with an exponent is tried where the plain one
fails, and its error is the one reported.
-/

namespace FeeOracle.Decimal

open Text

/-- Why a text is no decimal number. -/
inductive ReadError
  | empty
  | secondPoint
  | leadingSeparator
  | unknownCharacter
  | noDigits
  | tooManyDigits
  | roundingOverflow
  | noExponent
  | scaleTooLarge (scale : Nat)
  | tooLarge
deriving DecidableEq, Repr

/-- The text of the error. -/
def ReadError.message : ReadError → String
  | empty => "Invalid decimal: empty"
  | secondPoint => "Invalid decimal: two decimal points"
  | leadingSeparator => "Invalid decimal: must start lead with a number"
  | unknownCharacter => "Invalid decimal: unknown character"
  | noDigits => "Invalid decimal: no digits found"
  | tooManyDigits => "Invalid decimal: overflow from too many digits"
  | roundingOverflow => "Invalid decimal: overflow from mantissa after rounding"
  | noExponent => "Failed to parse"
  | scaleTooLarge scale => s!"Scale exceeds the maximum precision allowed: {scale} > 28"
  | tooLarge => "Number exceeds maximum value that can be represented."

/-- The characters that may follow the digit that rounds. -/
def checkDropped : List Char → Except ReadError Unit
  | [] => .ok ()
  | c :: rest =>
    if c.isDigit ∨ c = '_' then checkDropped rest
    else if c = '.' then .error .secondPoint
    else .error .unknownCharacter

/-- The number read so far, rounded by the digit `c` that no longer fits. If rounding overflows the
    coefficient, one more digit is given up. -/
def roundDropped (read : Decimal) (c : Char) : Except ReadError Decimal :=
  if c.isDigit ∧ 5 ≤ digitValue c then
    let coefficient := read.coefficient + 1
    let rounded :=
      if coefficient < coefficientBound then of? false coefficient read.scale
      else if read.scale = 0 then none
      else of? false ((coefficient + 4) / 10) (read.scale - 1)
    match rounded with
    | some x => .ok x
    | none => .error .roundingOverflow
  else .ok read

/-- The number read so far with one digit more, if it fits. -/
def push? (read : Decimal) (afterPoint : Bool) (c : Char) : Option Decimal :=
  of? false (10 * read.coefficient + digitValue c)
    (if afterPoint then read.scale + 1 else read.scale)

/-- Digits, a decimal point, underscores. -/
def readDigits (read : Decimal) (digitSeen pointSeen : Bool) : List Char → Except ReadError Decimal
  | [] => if digitSeen then .ok read else .error .noDigits
  | c :: rest =>
    if c.isDigit then
      match push? read pointSeen c with
      | some read => readDigits read true pointSeen rest
      | none =>
        if pointSeen then do
          checkDropped rest
          roundDropped read c
        else .error .tooManyDigits
    else if c = '.' then
      if pointSeen then .error .secondPoint else readDigits read digitSeen true rest
    else if c = '_' then
      if !digitSeen then .error .leadingSeparator
      else if read.scale = maxScale then do
        checkDropped rest
        .ok read
      else readDigits read true pointSeen rest
    else .error .unknownCharacter

/-- A numeral without an exponent: an optional sign, then its digits. -/
def readPlain (cs : List Char) : Except ReadError Decimal :=
  match cs with
  | [] => .error .empty
  | '-' :: rest => (readDigits zero false false rest).map (withSign true)
  | '+' :: rest => readDigits zero false false rest
  | _ => readDigits zero false false cs

/-- The number divided by `10 ^ exponent`; a scale beyond the greatest one rounds the
    coefficient. -/
def shiftDown (x : Decimal) (exponent : Nat) : Except ReadError Decimal :=
  if maxScale < exponent then .error (.scaleTooLarge exponent)
  else
    let scale := min maxScale (x.scale + exponent)
    match of? x.negative (halfUp x.coefficient (10 ^ (x.scale + exponent - scale))) scale with
    | some y => .ok y
    | none => .error (.scaleTooLarge exponent)

/-- The number multiplied by `10 ^ exponent`. -/
def shiftUp (x : Decimal) (exponent : Nat) : Except ReadError Decimal :=
  if exponent ≤ x.scale then
    match of? x.negative x.coefficient (x.scale - exponent) with
    | some y => .ok y
    | none => .error .tooLarge
  else if maxScale < exponent then .error (.scaleTooLarge exponent)
  else
    match of? x.negative (x.coefficient * 10 ^ (exponent - x.scale)) 0 with
    | some y => .ok y
    | none => .error .tooLarge

/-- A plain numeral, the letter `e` of either case, and an exponent of at most 32 bits. -/
def readScientific (cs : List Char) : Except ReadError Decimal :=
  let isMark := fun c => c == 'e' || c == 'E'
  match cs.dropWhile (!isMark ·) with
  | [] => .error .noExponent
  | _ :: written => do
    let base ← readPlain (cs.takeWhile (!isMark ·))
    match written with
    | '-' :: digits =>
      match readNatBelow? (2 ^ (32 : Nat)) digits with
      | some exponent => shiftDown base exponent
      | none => .error .noExponent
    | _ =>
      match readNatBelow? (2 ^ (32 : Nat)) written with
      | some exponent => shiftUp base exponent
      | none => .error .noExponent

/-- The decimal number that a text writes. -/
def parse (text : String) : Except ReadError Decimal :=
  match readPlain text.toList with
  | .ok x => .ok x
  | .error _ => readScientific text.toList

example : (parse "-1_0.50").toOption.map text = some "-10.50" := by decide +kernel
example : (parse "1.5e-28").toOption.map text = some "0.0000000000000000000000000002" := by
  decide +kernel
example :
    (parse "7.9228162514264337593543950335e28").toOption.map (·.coefficient + 1) =
      some (2 ^ (96 : Nat)) := by
  decide +kernel
example : (parse "1.2.3" matches .error .noExponent) = true := by decide +kernel

end FeeOracle.Decimal
