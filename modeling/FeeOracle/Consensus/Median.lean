import FeeOracle.Double.Arithmetic

/-!
# Median

The value in the middle of the sorted prices, or the mean of the two in the middle of an even
number. Prices are sorted by the total order, so that the result depends on nothing but which prices
there are.
-/

namespace FeeOracle.Consensus

/-- Puts a price at its place among prices in ascending order. -/
def insertAscending (price : Double) : List Double → List Double
  | [] => [price]
  | other :: rest =>
    if Double.totalLE price other then price :: other :: rest
      else other :: insertAscending price rest

/-- The prices in ascending order. -/
def ascending (prices : List Double) : List Double := prices.foldr insertAscending []

/-- The mean of two doubles, rounded after the addition. -/
def mean (x y : Double) : Double := (x + y) / 2

/-- The median of some prices; there is none of no prices. -/
def median? (prices : List Double) : Option Double :=
  let sorted := ascending prices
  let middle := sorted.length / 2
  if sorted.length % 2 = 1 then sorted[middle]?
  else
    match sorted[middle - 1]?, sorted[middle]? with
    | some lower, some upper => some (mean lower upper)
    | _, _ => none

theorem insertAscending_perm (price : Double) (prices : List Double) :
    (insertAscending price prices).Perm (price :: prices) := by
  induction prices with
  | nil => exact .refl _
  | cons other rest ih =>
    simp only [insertAscending]
    split
    · exact .refl _
    · exact (ih.cons other).trans (.swap ..)

/-- Sorting neither adds nor loses a price. -/
theorem ascending_perm (prices : List Double) : (ascending prices).Perm prices := by
  induction prices with
  | nil => exact .refl _
  | cons price rest ih => exact (insertAscending_perm ..).trans (ih.cons price)

theorem pairwise_insertAscending {price : Double} {prices : List Double}
    (h : prices.Pairwise fun x y => Double.totalLE x y = true) :
    (insertAscending price prices).Pairwise fun x y => Double.totalLE x y = true := by
  induction prices with
  | nil => simp [insertAscending]
  | cons other rest ih =>
    obtain ⟨hhead, htail⟩ := List.pairwise_cons.1 h
    simp only [insertAscending]
    split
    next hle =>
      refine List.pairwise_cons.2 ⟨fun y hy => ?_, h⟩
      rcases List.mem_cons.1 hy with rfl | hy
      · exact hle
      · exact Double.totalLE_trans hle (hhead y hy)
    next hle =>
      have hother : Double.totalLE other price = true := by
        have := Double.totalLE_total price other
        simp_all
      refine List.pairwise_cons.2 ⟨fun y hy => ?_, ih htail⟩
      rcases List.mem_cons.1 ((insertAscending_perm price rest).mem_iff.1 hy) with rfl | hy
      · exact hother
      · exact hhead y hy

/-- The sorted prices are in ascending order. -/
theorem pairwise_ascending (prices : List Double) :
    (ascending prices).Pairwise fun x y => Double.totalLE x y = true := by
  induction prices with
  | nil => exact .nil
  | cons price rest ih => exact pairwise_insertAscending ih

example : median? [30, 10, 20] = some 20 := by decide +kernel
example : median? [40, 10, 20, 30] = some 25 := by decide +kernel
example : median? [] = none := by decide +kernel

end FeeOracle.Consensus
