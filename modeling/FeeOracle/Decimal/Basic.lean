import FeeOracle.Power

/-!
# Decimal numbers

A decimal number is a sign, a whole coefficient below `2 ^ 96`, and a scale: how many digits of the
coefficient stand after the decimal point, 28 at most. Numbers of different scale may be equal in
value; the canonical one has the least scale. Zero carries no sign.
-/

namespace FeeOracle

/-- A decimal number of 96 bits. -/
structure Decimal where
  negative : Bool
  coefficient : Nat
  scale : Nat
  coefficient_lt : coefficient < 2 ^ (96 : Nat) := by decide
  scale_le : scale ≤ 28 := by decide
deriving DecidableEq, Repr

namespace Decimal

/-- Coefficients lie below this number. -/
def coefficientBound : Nat := 2 ^ (96 : Nat)

/-- No more digits than this stand after the decimal point. -/
def maxScale : Nat := 28

/-- Zero, without digits after the point. -/
def zero : Decimal := { negative := false, coefficient := 0, scale := 0 }

instance : Inhabited Decimal := ⟨zero⟩

/-- The decimal number with a given coefficient and scale, if both are in range. -/
def of? (negative : Bool) (coefficient scale : Nat) : Option Decimal :=
  if h : coefficient < coefficientBound ∧ scale ≤ maxScale then
    some { negative := negative && coefficient != 0, coefficient := coefficient, scale := scale,
           coefficient_lt := h.1, scale_le := h.2 }
  else none

/-- Is the number zero, whatever its scale? -/
def isZero (x : Decimal) : Bool := x.coefficient == 0

/-- The number with the given sign, unless it is zero. -/
def withSign (negative : Bool) (x : Decimal) : Decimal :=
  { x with negative := negative && x.coefficient != 0 }

/-- The value of the number. -/
def toRat (x : Decimal) : Rat :=
  mkRat (if x.negative then -(x.coefficient : Int) else x.coefficient) (10 ^ x.scale)

/-- Coefficient and scale without the zeros at the end of the fraction. -/
def stripZeros (coefficient : Nat) : Nat → Nat × Nat
  | 0 => (coefficient, 0)
  | scale + 1 =>
    if coefficient % 10 = 0 then stripZeros (coefficient / 10) scale else (coefficient, scale + 1)

theorem stripZeros_le (coefficient scale : Nat) :
    (stripZeros coefficient scale).1 ≤ coefficient ∧ (stripZeros coefficient scale).2 ≤ scale := by
  induction scale generalizing coefficient with
  | zero => simp [stripZeros]
  | succ scale ih =>
    simp only [stripZeros]
    split
    · have := ih (coefficient / 10)
      omega
    · simp

/-- Stripping zeros keeps the value. -/
theorem stripZeros_value (coefficient scale : Nat) :
    (stripZeros coefficient scale).1 * 10 ^ (scale - (stripZeros coefficient scale).2) =
      coefficient := by
  induction scale generalizing coefficient with
  | zero => simp [stripZeros]
  | succ scale ih =>
    simp only [stripZeros]
    split
    next hzero =>
      have hle := (stripZeros_le (coefficient / 10) scale).2
      rw [Nat.succ_sub hle, Nat.pow_succ, ← Nat.mul_assoc, ih]
      omega
    next => simp

/-- The number of the same value with the least scale. -/
def canonical (x : Decimal) : Decimal where
  negative := x.negative
  coefficient := (stripZeros x.coefficient x.scale).1
  scale := (stripZeros x.coefficient x.scale).2
  coefficient_lt := Nat.lt_of_le_of_lt (stripZeros_le ..).1 x.coefficient_lt
  scale_le := Nat.le_trans (stripZeros_le ..).2 x.scale_le

/-- Digits with a decimal point before the last `scale` of them; a zero stands before the point if
    no other digit does. -/
def pointedDigits (digits : List Char) (scale : Nat) : List Char :=
  if scale = 0 then digits
  else
    let padded := List.replicate (scale + 1 - digits.length) '0' ++ digits
    padded.take (padded.length - scale) ++ '.' :: padded.drop (padded.length - scale)

/-- The number in plain digits, as many after the point as its scale says. -/
def text (x : Decimal) : String :=
  let digits := pointedDigits (Nat.toDigits 10 x.coefficient) x.scale
  String.ofList (if x.negative then '-' :: digits else digits)

instance : ToString Decimal := ⟨text⟩

example : text { negative := true, coefficient := 1250, scale := 3 } = "-1.250" := by decide +kernel
example : text { negative := false, coefficient := 7, scale := 2 } = "0.07" := by decide +kernel
example : (canonical { negative := false, coefficient := 1200, scale := 3 }).text = "1.2" := by
  decide +kernel

end Decimal
end FeeOracle
