import FeeOracle.Double.Basic

/-!
# Orders on doubles

Comparison puts the two zeros at one place and holds of nothing that is not a number. The total
order places every double, also those that are not numbers: negative ones below all, positive ones
above all, and negative zero below zero.
-/

namespace FeeOracle.Double

/-- The place of a number in the order of values; both zeros are at the same place. -/
def place (x : Double) : Int := if x.negative then -(x.magnitude : Int) else x.magnitude

/-- The place of a double in the total order. -/
def totalPlace (x : Double) : Int := if x.negative then -(x.magnitude : Int) - 1 else x.magnitude

/-- Less than, as numbers compare. -/
def lt (x y : Double) : Bool := !x.isNaN && !y.isNaN && x.place < y.place

/-- At most, as numbers compare. -/
def le (x y : Double) : Bool := !x.isNaN && !y.isNaN && x.place ≤ y.place

/-- At most, in the total order. -/
def totalLE (x y : Double) : Bool := x.totalPlace ≤ y.totalPlace

/-- The total order tells any two doubles apart. -/
theorem totalPlace_injective {x y : Double} (h : x.totalPlace = y.totalPlace) : x = y := by
  obtain ⟨xneg, xmag, _⟩ := x
  obtain ⟨yneg, ymag, _⟩ := y
  cases xneg <;> cases yneg <;>
    simp only [totalPlace, Bool.false_eq_true, if_true, if_false] at h <;>
    simp only [mk.injEq, true_and, reduceCtorEq, false_and] <;> omega

theorem totalLE_trans {x y z : Double} (hxy : totalLE x y = true) (hyz : totalLE y z = true) :
    totalLE x z = true := by
  simp only [totalLE, decide_eq_true_eq] at *
  omega

theorem totalLE_total (x y : Double) : (totalLE x y || totalLE y x) = true := by
  simp only [totalLE, Bool.or_eq_true, decide_eq_true_eq]
  omega

theorem totalLE_antisymm {x y : Double} (hxy : totalLE x y = true) (hyx : totalLE y x = true) :
    x = y := by
  simp only [totalLE, decide_eq_true_eq] at *
  exact totalPlace_injective (by omega)

end FeeOracle.Double
