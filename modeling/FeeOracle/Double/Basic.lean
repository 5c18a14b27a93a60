import FeeOracle.Power

/-!
# Doubles

A double is a sign and a magnitude. The magnitudes number the non-negative doubles upward from zero,
so that the order of magnitudes is the order of values: the subnormal numbers first, then 2046
binades of `2 ^ 52` numbers each, then infinity, and everything above infinity is not a number.
Finite values are multiples of the smallest positive double, and `units` counts them; no other
notion of value is needed.
-/

namespace FeeOracle

/-- A floating-point number of 64 bits: its sign and the number formed by its other bits. -/
structure Double where
  negative : Bool
  magnitude : Nat
  magnitude_lt : magnitude < 2 ^ (63 : Nat) := by decide
deriving DecidableEq, Repr

namespace Double

/-- The magnitude of infinity. Finite doubles lie below it, and above it nothing is a number. -/
def infinityMagnitude : Nat := 2047 * 2 ^ (52 : Nat)

/-- The number of units in one: a unit is the smallest positive double. -/
def unitsPerOne : Nat := 2 ^ (1074 : Nat)

/-- The value of a magnitude in units: significand times power of two. -/
def magnitudeUnits (magnitude : Nat) : Nat :=
  if magnitude < 2 ^ (52 : Nat) then magnitude
  else (2 ^ (52 : Nat) + magnitude % 2 ^ (52 : Nat)) * 2 ^ (magnitude / 2 ^ (52 : Nat) - 1)

/-- The absolute value of a finite double, in units. -/
def units (x : Double) : Nat := magnitudeUnits x.magnitude

/-- The value of a finite double, in units. -/
def value (x : Double) : Int := if x.negative then -(x.units : Int) else x.units

/-- Is this not a number? -/
def isNaN (x : Double) : Bool := infinityMagnitude < x.magnitude

/-- Is this infinity, of either sign? -/
def isInfinite (x : Double) : Bool := x.magnitude == infinityMagnitude

/-- Is this a finite number? -/
def isFinite (x : Double) : Bool := x.magnitude < infinityMagnitude

/-- The double of a sign and a magnitude; magnitudes beyond infinity count as infinity. -/
def ofMagnitude (negative : Bool) (magnitude : Nat) : Double where
  negative := negative
  magnitude := min magnitude infinityMagnitude
  magnitude_lt := Nat.lt_of_le_of_lt (Nat.min_le_right ..) (by decide)

/-- Positive zero. -/
def zero : Double := { negative := false, magnitude := 0 }

/-- Positive infinity. -/
def infinity : Double := { negative := false, magnitude := infinityMagnitude }

/-- Negative infinity. -/
def negInfinity : Double := { negative := true, magnitude := infinityMagnitude }

/-- The quiet value that is not a number. -/
def nan : Double := { negative := false, magnitude := infinityMagnitude + 2 ^ (51 : Nat) }

/-- The same with the sign set; it differs from `nan` only in the total order. -/
def negNaN : Double := { negative := true, magnitude := infinityMagnitude + 2 ^ (51 : Nat) }

instance : Inhabited Double := ⟨zero⟩

@[simp] theorem units_zero : zero.units = 0 := by decide

theorem isFinite_iff {x : Double} : x.isFinite = true ↔ x.magnitude < infinityMagnitude := by
  simp [isFinite]

theorem isFinite_ofMagnitude {negative : Bool} {magnitude : Nat} :
    (ofMagnitude negative magnitude).isFinite = true ↔ magnitude < infinityMagnitude := by
  simp only [isFinite_iff, ofMagnitude]
  omega

end Double
end FeeOracle
