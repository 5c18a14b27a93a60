import FeeOracle.Proofs.Consensus.Median
import Mathlib.Data.Finset.Card

/-!
# Manipulated prices

Whoever controls fewer than half of the prices cannot move the median beyond the others: the
untouched prices are a majority, so that some of them lie on either side of the middle
(`exists_mem_of_majority`), and the median is in the middle unless it overflows.
-/

namespace FeeOracle.Consensus

open Double

/-- The prices at the positions outside a set. -/
def untouchedPrices (prices : List Double) (touched : Finset Nat) : List Double :=
  (prices.zipIdx.filter fun (_, position) => position ∉ touched).map (·.1)

theorem mem_untouchedPrices {prices : List Double} {touched : Finset Nat} {price : Double} :
    price ∈ untouchedPrices prices touched ↔
    ∃ position ∉ touched, prices[position]? = some price := by
  simp [untouchedPrices, List.mem_zipIdx_iff_getElem?, and_comm]

theorem untouchedPrices_sublist (prices : List Double) (touched : Finset Nat) :
    (untouchedPrices prices touched).Sublist prices := by
  have h := (List.filter_sublist (p := fun (pair : Double × Nat) => decide (pair.2 ∉ touched))
    (l := prices.zipIdx)).map (·.1)
  rwa [List.zipIdx_map_fst] at h

/-- Every touched position takes away one price at most. -/
theorem length_le_untouchedPrices (prices : List Double) (touched : Finset Nat) :
    prices.length ≤ (untouchedPrices prices touched).length + touched.card := by
  have hpositions : (untouchedPrices prices touched).length =
      (Finset.range prices.length \ touched).card := by
    have hpositions : ((prices.zipIdx.filter fun (_, position) => position ∉ touched).map (·.2)) =
        (List.range prices.length).filter (· ∉ touched) := by
      rw [List.range_eq_range', ← List.zipIdx_map_snd 0 prices, List.filter_map]
      rfl
    rw [untouchedPrices, List.length_map, ← List.length_map (f := Prod.snd), hpositions,
      Finset.sdiff_eq_filter]
    rfl
  have hcard := Finset.le_card_sdiff touched (Finset.range prices.length)
  rw [Finset.card_range] at hcard
  omega

/-- If fewer than half of some usable prices are replaced, the median of what results is between
    prices that were not, provided that the two prices in the middle do not overflow; an odd number
    of prices has its median among them, and there nothing can overflow. -/
theorem median?_of_minority_replaced {honest altered : List Double} {touched : Finset Nat}
    (husable : ∀ price ∈ altered, isUsablePrice price = true)
    (hlength : altered.length = honest.length)
    (hsame : ∀ position, position ∉ touched → altered[position]? = honest[position]?)
    (hminority : 2 * touched.card < honest.length) :
    ∃ median, median? altered = some median ∧ (honest.length % 2 = 1 → median ∈ altered) ∧
      (honest.length % 2 = 1 ∨ ¬ MiddleOverflows altered →
        (∃ position ∉ touched, ∃ low, honest[position]? = some low ∧ Double.le low median = true) ∧
          ∃ position ∉ touched,
            ∃ high, honest[position]? = some high ∧ Double.le median high = true) := by
  have hne : altered ≠ [] := by
    rintro rfl
    simp only [List.length_nil] at hlength
    omega
  obtain ⟨median, hmedian⟩ := Option.ne_none_iff_exists'.1 (mt median?_eq_none_iff.1 hne)
  refine ⟨median, hmedian, ?_, ?_⟩
  · intro hodd
    rw [(median?_of_odd (by omega)).1] at hmedian
    exact mem_of_getElem?_ascending hmedian
  · intro hfits
    have hfits : ¬ MiddleOverflows altered := by
      rcases hfits with hodd | hfits
      · rintro ⟨heven, _⟩
        omega
      · exact hfits
    have hmajority : altered.length < 2 * (untouchedPrices altered touched).length := by
      have := length_le_untouchedPrices altered touched
      omega
    obtain ⟨⟨low, hlow, hlowLE⟩, high, hhigh, hhighLE⟩ :=
      median?_between_of_majority husable hfits
        (untouchedPrices_sublist altered touched) hmajority hmedian
    obtain ⟨lowPosition, hlowUntouched, hlowGet⟩ := mem_untouchedPrices.1 hlow
    obtain ⟨highPosition, hhighUntouched, hhighGet⟩ := mem_untouchedPrices.1 hhigh
    rw [hsame lowPosition hlowUntouched] at hlowGet
    rw [hsame highPosition hhighUntouched] at hhighGet
    exact ⟨⟨lowPosition, hlowUntouched, low, hlowGet, hlowLE⟩, highPosition, hhighUntouched,
      high, hhighGet, hhighLE⟩

/-- One price of four is raised out of all proportion; the median of all four stays between the
    other three. -/
theorem median?_of_one_of_four_replaced :
    2 * ({0} : Finset Nat).card < ([10, 20, 30, 40] : List Double).length ∧
    ¬ MiddleOverflows [1e15, 20, 30, 40] ∧
      ∃ median, median? [1e15, 20, 30, 40] = some median ∧
        (∃ position ∉ ({0} : Finset Nat),
          ∃ low, ([10, 20, 30, 40] : List Double)[position]? = some low ∧
          Double.le low median = true) ∧
        ∃ position ∉ ({0} : Finset Nat),
          ∃ high, ([10, 20, 30, 40] : List Double)[position]? = some high ∧
          Double.le median high = true := by
  have hfits : ¬ MiddleOverflows [1e15, 20, 30, 40] := by decide +kernel
  have husable : ∀ price ∈ ([1e15, 20, 30, 40] : List Double),
      isUsablePrice price = true := by decide +kernel
  have hlength : ([1e15, 20, 30, 40] : List Double).length =
      ([10, 20, 30, 40] : List Double).length := by
    simp only [List.length_cons, List.length_nil]
  have hsame : ∀ position, position ∉ ({0} : Finset Nat) →
      ([1e15, 20, 30, 40] : List Double)[position]? =
        ([10, 20, 30, 40] : List Double)[position]? := by
    intro position huntouched
    cases position with
    | zero => exact absurd (Finset.mem_singleton_self 0) huntouched
    | succ position => simp only [List.getElem?_cons_succ]
  have hminority : 2 * ({0} : Finset Nat).card < ([10, 20, 30, 40] : List Double).length := by
    rw [Finset.card_singleton]
    decide
  obtain ⟨median, hmedian, _, hbetween⟩ :=
    median?_of_minority_replaced husable hlength hsame hminority
  exact ⟨hminority, hfits, median, hmedian, hbetween (.inr hfits)⟩

end FeeOracle.Consensus
