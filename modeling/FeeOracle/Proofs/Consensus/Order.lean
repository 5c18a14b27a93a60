import FeeOracle.Aggregator.Quote
import FeeOracle.Proofs.Consensus.Median
import Mathlib.Data.List.Forall2

/-!
# Raised prices

Raising prices can put them into another order. But at every place of the sorted prices the one that
stands there after raising is not smaller (`totalLE_of_raised`): the raised prices up to it were no
greater before, and they are too many to have all stood before that place. The mean of the two in
the middle keeps the order, also where it overflows (`mean_mono`), and so the median does.
-/

namespace FeeOracle.Consensus

open Double

/-- Are these the same number of prices, none of them smaller at its position? -/
def Raised (prices raised : List Double) : Prop :=
  List.Forall₂ (fun price other => Double.le price other = true) prices raised

/-- If whatever passes a test is related to something that passes another one, no more can pass the
    former. -/
theorem countP_le_of_forall₂ {α β : Type} {relation : α → β → Prop} {test : α → Bool}
    {other : β → Bool} {before : List α} {after : List β}
    (hrelated : List.Forall₂ relation before after)
    (htest : ∀ x y, relation x y → other y = true → test x = true) :
    after.countP other ≤ before.countP test := by
  induction hrelated with
  | nil => exact Nat.le_refl _
  | @cons x y _ _ hxy _ ih =>
    rw [List.countP_cons, List.countP_cons]
    have hone := htest x y hxy
    cases hother : other y with
    | false => exact Nat.le_trans ih (Nat.le_add_right ..)
    | true =>
      rw [hone hother]
      exact Nat.add_le_add_right ih 1

/-- At no place of the sorted prices the one after raising is smaller. -/
theorem totalLE_of_raised {prices raised : List Double} {index : Nat} {price other : Double}
    (hraised : List.Forall₂ (fun price other => totalLE price other = true) prices raised)
    (hprice : (ascending prices)[index]? = some price)
    (hother : (ascending raised)[index]? = some other) : totalLE price other = true := by
  -- Otherwise every raised price up to `other` was below `price`, but there were not so many.
  by_contra hgreater
  have hbelow := countP_below_le hprice
  have habove := countP_above_le hother
  obtain ⟨hindex, -⟩ := List.getElem?_eq_some_iff.1 hother
  rw [length_ascending] at hindex
  have hsplit := List.length_eq_countP_add_countP (fun last => totalLE last other) (l := raised)
  have hmoved : raised.countP (fun last => totalLE last other) ≤
      prices.countP (fun first => !totalLE price first) := by
    refine countP_le_of_forall₂ hraised fun first last hle hlast => ?_
    rw [Bool.not_eq_true', Bool.eq_false_iff]
    exact fun hfirst => hgreater (totalLE_trans (totalLE_trans hfirst hle) hlast)
  simp only [decide_not, Bool.decide_eq_true] at hsplit
  omega

section Usable

variable {x y x' y' : Double}

/-- The sum of usable prices grows with both of them. -/
theorem magnitude_add_mono (hx : isUsablePrice x = true) (hy : isUsablePrice y = true)
    (hx' : isUsablePrice x' = true) (hy' : isUsablePrice y' = true)
    (hxle : x.magnitude ≤ x'.magnitude) (hyle : y.magnitude ≤ y'.magnitude) :
    (x + y).magnitude ≤ (x' + y').magnitude := by
  have hunits : x.units + y.units ≤ x'.units + y'.units :=
    Nat.add_le_add (magnitudeUnits_strictMono.monotone hxle)
      (magnitudeUnits_strictMono.monotone hyle)
  rw [add_of_usable hx hy, add_of_usable hx' hy']
  refine Nat.le_min.2 ⟨(Nat.min_le_left ..).trans ?_, Nat.min_le_right ..⟩
  exact nearestMagnitude_mono Nat.one_pos Nat.one_pos (Nat.mul_le_mul_right 1 hunits)

/-- Where the sum of usable prices is finite, their mean is the half of it, rounded. -/
theorem mean_of_isFinite (hx : isUsablePrice x = true) (hy : isUsablePrice y = true)
    (hsum : (x + y).isFinite = true) :
    mean x y = ofMagnitude false (nearestMagnitude (x + y).units 2) :=
  half_of_isUnsigned ⟨by rw [add_of_usable hx hy]; rfl, hsum⟩

/-- The mean of usable prices grows with both of them, up to infinity. -/
theorem mean_mono (hx : isUsablePrice x = true) (hy : isUsablePrice y = true)
    (hx' : isUsablePrice x' = true) (hy' : isUsablePrice y' = true)
    (hxle : x.magnitude ≤ x'.magnitude) (hyle : y.magnitude ≤ y'.magnitude) :
    Double.le (mean x y) (mean x' y') = true := by
  have hsum := magnitude_add_mono hx hy hx' hy' hxle hyle
  by_cases hfinite' : (x' + y').isFinite = true
  · have hfinite : (x + y).isFinite = true :=
      isFinite_iff.2 (Nat.lt_of_le_of_lt hsum (isFinite_iff.1 hfinite'))
    rw [mean_of_isFinite hx hy hfinite, mean_of_isFinite hx' hy' hfinite',
      le_iff_magnitude_le rfl rfl (Nat.min_le_right ..) (Nat.min_le_right ..)]
    refine Nat.le_min.2 ⟨(Nat.min_le_left ..).trans ?_, Nat.min_le_right ..⟩
    exact nearestMagnitude_mono Nat.two_pos Nat.two_pos
      (Nat.mul_le_mul_right 2 (magnitudeUnits_strictMono.monotone hsum))
  · rw [mean_of_overflow hx' hy' (Bool.eq_false_iff.2 hfinite')]
    by_cases hfinite : (x + y).isFinite = true
    · rw [mean_of_isFinite hx hy hfinite,
        le_iff_magnitude_le rfl rfl (Nat.min_le_right ..) (Nat.le_refl _)]
      exact Nat.min_le_right ..
    · rw [mean_of_overflow hx hy (Bool.eq_false_iff.2 hfinite)]
      decide

end Usable

section Raised

variable {prices raised : List Double}

theorem Raised.length_eq (hraised : Raised prices raised) : prices.length = raised.length :=
  List.Forall₂.length_eq hraised

/-- Usable prices are raised in the total order as well. -/
theorem Raised.totalLE (husable : ∀ price ∈ prices, isUsablePrice price = true)
    (husable' : ∀ price ∈ raised, isUsablePrice price = true) (hraised : Raised prices raised) :
    List.Forall₂ (fun price other => Double.totalLE price other = true) prices raised := by
  induction hraised with
  | nil => exact .nil
  | @cons price other _ _ hle _ ih =>
    rw [List.forall_mem_cons] at husable husable'
    obtain ⟨hsign, -, hfinite⟩ := isUsablePrice_iff.1 husable.1
    obtain ⟨hsign', -, hfinite'⟩ := isUsablePrice_iff.1 husable'.1
    rw [le_iff_magnitude_le hsign hsign' hfinite.le hfinite'.le] at hle
    exact .cons ((totalLE_iff_magnitude_le husable.1 husable'.1).2 hle) (ih husable.2 husable'.2)

/-- At every place of the sorted prices the magnitude is not smaller after raising. -/
theorem Raised.magnitude_le (husable : ∀ price ∈ prices, isUsablePrice price = true)
    (husable' : ∀ price ∈ raised, isUsablePrice price = true) (hraised : Raised prices raised)
    {index : Nat} {price other : Double} (hprice : (ascending prices)[index]? = some price)
    (hother : (ascending raised)[index]? = some other) : price.magnitude ≤ other.magnitude :=
  (totalLE_iff_magnitude_le (husable price (mem_of_getElem?_ascending hprice))
    (husable' other (mem_of_getElem?_ascending hother))).1
    (totalLE_of_raised (hraised.totalLE husable husable') hprice hother)

/-- Usable prices have a median, and no price of them can be raised so that it gets smaller. -/
theorem exists_median?_of_raised (hne : prices ≠ [])
    (husable : ∀ price ∈ prices, isUsablePrice price = true)
    (husable' : ∀ price ∈ raised, isUsablePrice price = true) (hraised : Raised prices raised) :
    ∃ low high,
      median? prices = some low ∧ median? raised = some high ∧ Double.le low high = true := by
  have hlength := hraised.length_eq
  have hne' : raised ≠ [] := by
    rintro rfl
    exact hne (List.length_eq_zero_iff.1 hlength)
  obtain ⟨lower, upper, hlower, hupper, -⟩ := exists_middle hne
  obtain ⟨lower', upper', hlower', hupper', -⟩ := exists_middle hne'
  have hbelow : lower.magnitude ≤ lower'.magnitude :=
    hraised.magnitude_le husable husable' hlower (by rw [hlength]; exact hlower')
  have habove : upper.magnitude ≤ upper'.magnitude :=
    hraised.magnitude_le husable husable' hupper (by rw [hlength]; exact hupper')
  have hlow := husable lower (mem_of_getElem?_ascending hlower)
  have hlow' := husable' lower' (mem_of_getElem?_ascending hlower')
  have hup := husable upper (mem_of_getElem?_ascending hupper)
  have hup' := husable' upper' (mem_of_getElem?_ascending hupper')
  rcases Nat.mod_two_eq_zero_or_one prices.length with heven | hodd
  · exact ⟨_, _, median?_of_even heven hlower hupper,
      median?_of_even (hlength ▸ heven) hlower' hupper',
      mean_mono hlow hup hlow' hup' hbelow habove⟩
  · obtain ⟨hsign, -, hfinite⟩ := isUsablePrice_iff.1 hlow
    obtain ⟨hsign', -, hfinite'⟩ := isUsablePrice_iff.1 hlow'
    exact ⟨lower, lower', (median?_of_odd hodd).1.trans hlower,
      (median?_of_odd (hlength ▸ hodd)).1.trans hlower',
      (le_iff_magnitude_le hsign hsign' hfinite.le hfinite'.le).2 hbelow⟩

/-- Raising some of the usable prices, or all of them, never lowers the median, and neither does it
    lower the quote that is made of readings with these prices. -/
theorem median?_mono_of_raised (hne : prices ≠ [])
    (husable : ∀ price ∈ prices, isUsablePrice price = true)
    (husable' : ∀ price ∈ raised, isUsablePrice price = true) (hraised : Raised prices raised) :
    (∃ low high,
      median? prices = some low ∧ median? raised = some high ∧ Double.le low high = true) ∧
      ∀ (readings others : Readings) (pair : TickerPair),
        readings.successes.map (·.price) = prices →
        others.successes.map (·.price) = raised →
        ∃ low high, readings.quote pair = .ok low ∧ others.quote pair = .ok high ∧
          Double.le low high = true := by
  obtain ⟨low, high, hlow, hhigh, hle⟩ := exists_median?_of_raised hne husable husable' hraised
  refine ⟨⟨low, high, hlow, hhigh, hle⟩,
    fun readings others pair hprices hothers => ⟨low, high, ?_, ?_, hle⟩⟩
  · rw [Readings.quote, hprices, hlow]
  · rw [Readings.quote, hothers, hhigh]

/-- The smallest of four prices is raised beyond the others, where the new sum of the middle ones
    overflows. -/
theorem median?_mono_of_raised_smallest :
    Raised [10, 20, 1.7e308, 1.7e308] [1.6e308, 20, 1.7e308, 1.7e308] ∧
      ∃ low high, median? [10, 20, 1.7e308, 1.7e308] = some low ∧
        median? [1.6e308, 20, 1.7e308, 1.7e308] = some high ∧ Double.le low high = true ∧
        high = infinity := by
  have hraised : Raised [10, 20, 1.7e308, 1.7e308] [1.6e308, 20, 1.7e308, 1.7e308] :=
    .cons (by decide +kernel)
      (.cons (by decide +kernel) (.cons (by decide +kernel) (.cons (by decide +kernel) .nil)))
  obtain ⟨⟨low, high, hlow, hhigh, hle⟩, -⟩ :=
    median?_mono_of_raised (by simp) (by decide +kernel) (by decide +kernel) hraised
  have hover : median? [1.6e308, 20, 1.7e308, 1.7e308] = some infinity := by decide +kernel
  exact ⟨hraised, low, high, hlow, hhigh, hle, Option.some.inj (hhigh.symm.trans hover)⟩

end Raised

end FeeOracle.Consensus
