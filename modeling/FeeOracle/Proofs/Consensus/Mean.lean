import FeeOracle.Aggregator.SourceError
import FeeOracle.Consensus.Median
import FeeOracle.Proofs.Double.Unsigned

/-!
# The mean of two prices

Usable prices are ordered as their magnitudes are. The mean of two of them is computed by an
addition and a division, each rounded. As long as the sum is below `overflowUnits` it lies between
the two prices (`mean_between`): twice a double is again the value of a magnitude, so that the
rounded sum lies between twice the one price and twice the other. From `overflowUnits` on the sum is
infinite, and so is the mean.
-/

namespace FeeOracle

open Double

/-- The usable prices are the positive doubles below infinity. -/
theorem isUsablePrice_iff {price : Double} :
    isUsablePrice price = true ↔
      price.negative = false ∧ 0 < price.magnitude ∧ price.magnitude < infinityMagnitude := by
  have hzero : (0 : Double) = zero := by decide +kernel
  simp only [isUsablePrice, Double.lt, hzero, isFinite, isNaN, place, Bool.and_eq_true,
    decide_eq_true_eq, Bool.not_eq_true', decide_eq_false_iff_not]
  cases price.negative with
  | false => simp [zero, and_comm]; omega
  | true => simp [zero]

/-- Prices without a sign compare as their magnitudes do, infinity included. -/
theorem le_iff_magnitude_le {x y : Double} (hx : x.negative = false) (hy : y.negative = false)
    (hxle : x.magnitude ≤ infinityMagnitude) (hyle : y.magnitude ≤ infinityMagnitude) :
    Double.le x y = true ↔ x.magnitude ≤ y.magnitude := by
  simp only [Double.le, isNaN, place, hx, hy, Bool.and_eq_true, Bool.not_eq_true',
    decide_eq_false_iff_not, decide_eq_true_eq, Bool.false_eq_true, if_false]
  omega

/-- The total order puts usable prices in the order of their magnitudes. -/
theorem totalLE_iff_magnitude_le {x y : Double} (hx : isUsablePrice x = true)
    (hy : isUsablePrice y = true) : totalLE x y = true ↔ x.magnitude ≤ y.magnitude := by
  have hxneg := (isUsablePrice_iff.1 hx).1
  have hyneg := (isUsablePrice_iff.1 hy).1
  simp only [totalLE, totalPlace, hxneg, hyneg, decide_eq_true_eq, Bool.false_eq_true, if_false]
  omega

/-- A usable price is finite and has no sign. -/
theorem isUnsigned_of_usable {x : Double} (hx : isUsablePrice x = true) : IsUnsigned x := by
  obtain ⟨hneg, -, hlt⟩ := isUsablePrice_iff.1 hx
  exact ⟨hneg, isFinite_iff.2 hlt⟩

/-- The sum of two usable prices is rounded once. -/
theorem add_of_usable {x y : Double} (hx : isUsablePrice x = true) (hy : isUsablePrice y = true) :
    x + y = ofMagnitude false (nearestMagnitude (x.units + y.units) 1) :=
  add_of_isUnsigned (isUnsigned_of_usable hx) (isUnsigned_of_usable hy)

/-- The sum of two usable prices is finite exactly below `overflowUnits`. -/
theorem isFinite_add_iff {x y : Double} (hx : isUsablePrice x = true)
    (hy : isUsablePrice y = true) :
    (x + y).isFinite = true ↔ x.units + y.units < overflowUnits := by
  rw [add_of_usable hx hy, isFinite_ofMagnitude, ← Nat.not_le,
    infinityMagnitude_le_nearestMagnitude_iff, Nat.not_le]

/-- Half of a finite double without a sign is rounded once. -/
theorem half_of_isUnsigned {x : Double} (hx : IsUnsigned x) :
    x / 2 = ofMagnitude false (nearestMagnitude x.units 2) := by
  have htwo : IsUnsigned 2 := ⟨by decide +kernel, by decide +kernel⟩
  have hunits : (2 : Double).units = 2 * unitsPerOne := by decide +kernel
  rw [div_of_isUnsigned hx htwo (by decide +kernel), hunits, ofUnits,
    nearestMagnitude_mul_right x.units Nat.two_pos (by decide +kernel)]

namespace Consensus

/-- As long as their sum does not overflow, the mean of two usable prices is between them. -/
theorem mean_between {x y : Double} (hx : isUsablePrice x = true) (hy : isUsablePrice y = true)
    (hle : x.magnitude ≤ y.magnitude) (hsum : (x + y).isFinite = true) :
    (mean x y).negative = false ∧ x.magnitude ≤ (mean x y).magnitude ∧
    (mean x y).magnitude ≤ y.magnitude := by
  obtain ⟨_, _, hylt⟩ := isUsablePrice_iff.1 hy
  have hadd := add_of_usable hx hy
  rw [hadd, isFinite_ofMagnitude] at hsum
  have hmagnitude : (x + y).magnitude = nearestMagnitude (x.units + y.units) 1 := by
    rw [hadd]
    exact Nat.min_eq_left (Nat.le_of_lt hsum)
  obtain ⟨hlow, hhigh⟩ := magnitudeUnits_nearestMagnitude_add_between hle
  have hhalf : mean x y = ofMagnitude false (nearestMagnitude (x + y).units 2) :=
    half_of_isUnsigned ⟨by rw [hadd]; rfl, isFinite_iff.2 (by rw [hmagnitude]; exact hsum)⟩
  have hunits : (x + y).units = magnitudeUnits (nearestMagnitude (x.units + y.units) 1) := by
    rw [units, hmagnitude]
  have hleft : magnitudeUnits x.magnitude * 2 ≤ (x + y).units := by
    rw [hunits, Nat.mul_comm]
    exact hlow
  have hright : (x + y).units ≤ magnitudeUnits y.magnitude * 2 := by
    rw [hunits, Nat.mul_comm]
    exact hhigh
  obtain ⟨hbelow, habove⟩ := nearestMagnitude_between Nat.two_pos hleft hright
  rw [hhalf]
  refine ⟨rfl, ?_, ?_⟩
  · exact Nat.le_min.2 ⟨hbelow, by omega⟩
  · exact Nat.le_trans (Nat.min_le_left ..) habove

/-- If the sum of two usable prices overflows, their mean is infinite. -/
theorem mean_of_overflow {x y : Double} (hx : isUsablePrice x = true) (hy : isUsablePrice y = true)
    (hsum : (x + y).isFinite = false) : mean x y = infinity := by
  have hadd := add_of_usable hx hy
  have hover : infinityMagnitude ≤ nearestMagnitude (x.units + y.units) 1 := by
    rw [hadd, Bool.eq_false_iff, ne_eq, isFinite_ofMagnitude] at hsum
    omega
  have hinfinity : x + y = infinity := by
    rw [hadd]
    simp [ofMagnitude, infinity, Nat.min_eq_right hover]
  show (x + y) / 2 = _
  rw [hinfinity]
  decide +kernel

end Consensus
end FeeOracle
