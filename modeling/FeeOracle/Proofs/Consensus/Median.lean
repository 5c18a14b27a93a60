import FeeOracle.Proofs.Consensus.Mean

/-!
# The median and the prices in the middle

The sorted prices have a lower and an upper middle, which are one and the same price if there is an
odd number of them. The median lies between the two unless their sum overflows, and then it is
infinite. Any majority of the prices has a price at or below the lower middle and one at or above
the upper middle (`exists_mem_of_majority`): too few prices are left on the other side to hold a
majority.
-/

namespace FeeOracle.Consensus

open Double

/-- The price in the middle of the sorted prices, of an even number the lower one of the two. -/
def lowerMiddle? (prices : List Double) : Option Double :=
  (ascending prices)[(prices.length - 1) / 2]?

/-- The price in the middle of the sorted prices, of an even number the upper one of the two. -/
def upperMiddle? (prices : List Double) : Option Double := (ascending prices)[prices.length / 2]?

/-- The two prices in the middle of an even number have a sum that rounds to infinity. -/
def MiddleOverflows (prices : List Double) : Prop :=
  prices.length % 2 = 0 ∧
    ∃ lower ∈ lowerMiddle? prices,
      ∃ upper ∈ upperMiddle? prices, overflowUnits ≤ lower.units + upper.units

instance (prices : List Double) : Decidable (MiddleOverflows prices) :=
  inferInstanceAs (Decidable (_ ∧ _))

theorem length_ascending (prices : List Double) : (ascending prices).length = prices.length :=
  (ascending_perm prices).length_eq

/-- Sorting does not depend on the order in which the prices are given. -/
theorem ascending_eq_of_perm {prices others : List Double} (h : prices.Perm others) :
    ascending prices = ascending others := by
  refine List.Perm.eq_of_pairwise ?_ (pairwise_ascending prices) (pairwise_ascending others) ?_
  · intro x y _ _ hxy hyx
    exact totalLE_antisymm hxy hyx
  · exact ((ascending_perm prices).trans h).trans (ascending_perm others).symm

/-- Neither does the median. -/
theorem median?_eq_of_perm {prices others : List Double} (h : prices.Perm others) :
    median? prices = median? others := by
  simp only [median?, ascending_eq_of_perm h]

/-- The middles of some prices are among them. -/
theorem mem_of_getElem?_ascending {prices : List Double} {index : Nat} {price : Double}
    (h : (ascending prices)[index]? = some price) : price ∈ prices :=
  (ascending_perm prices).mem_iff.1 (List.mem_of_getElem? h)

/-- A sorted price is at most every price at the same place or later. -/
theorem totalLE_getElem_ascending {prices : List Double} {first second : Nat} (hle : first ≤ second)
    (hfirst : first < (ascending prices).length) (hsecond : second < (ascending prices).length) :
    totalLE (ascending prices)[first] (ascending prices)[second] = true := by
  rcases Nat.lt_or_eq_of_le hle with hlt | rfl
  · exact List.pairwise_iff_getElem.1 (pairwise_ascending prices) _ _ hfirst hsecond hlt
  · simp [totalLE]

/-- Some prices have a lower and an upper middle, in this order. -/
theorem exists_middle {prices : List Double} (hne : prices ≠ []) :
    ∃ lower upper, lowerMiddle? prices = some lower ∧ upperMiddle? prices = some upper ∧
      totalLE lower upper = true := by
  have hpos : 0 < prices.length := List.length_pos_iff.2 hne
  have hlength := length_ascending prices
  have hlower : (prices.length - 1) / 2 < (ascending prices).length := by omega
  have hupper : prices.length / 2 < (ascending prices).length := by omega
  exact ⟨(ascending prices)[(prices.length - 1) / 2], (ascending prices)[prices.length / 2],
    List.getElem?_eq_getElem hlower, List.getElem?_eq_getElem hupper,
    totalLE_getElem_ascending (by omega) hlower hupper⟩

/-- The median of an odd number of prices is the one in the middle. -/
theorem median?_of_odd {prices : List Double} (hodd : prices.length % 2 = 1) :
    median? prices = lowerMiddle? prices ∧ median? prices = upperMiddle? prices := by
  have hsame : (prices.length - 1) / 2 = prices.length / 2 := by omega
  simp [median?, lowerMiddle?, upperMiddle?, length_ascending, hodd, hsame]

/-- The median of an even number of prices is the mean of the two in the middle. -/
theorem median?_of_even {prices : List Double} {lower upper : Double}
    (heven : prices.length % 2 = 0) (hlower : lowerMiddle? prices = some lower)
    (hupper : upperMiddle? prices = some upper) : median? prices = some (mean lower upper) := by
  have hindex : prices.length / 2 - 1 = (prices.length - 1) / 2 := by omega
  unfold lowerMiddle? at hlower
  unfold upperMiddle? at hupper
  simp [median?, length_ascending, heven, hindex, hlower, hupper]

/-- Only of no prices there is no median. -/
theorem median?_eq_none_iff {prices : List Double} : median? prices = none ↔ prices = [] := by
  constructor
  · intro hnone
    refine Decidable.byContradiction fun hne => ?_
    obtain ⟨lower, upper, hlower, hupper, _⟩ := exists_middle hne
    rcases Nat.mod_two_eq_zero_or_one prices.length with heven | hodd
    · rw [median?_of_even heven hlower hupper] at hnone
      cases hnone
    · rw [(median?_of_odd hodd).2, hupper] at hnone
      cases hnone
  · rintro rfl
    rfl

private theorem countP_take_add_drop (index : Nat) (test : Double → Bool) (prices : List Double) :
    (prices.take index).countP test + (prices.drop index).countP test = prices.countP test := by
  rw [← List.countP_append, List.take_append_drop]

/-- At most `index` prices are below the sorted price at `index`. -/
theorem countP_below_le {prices : List Double} {index : Nat} {price : Double}
    (h : (ascending prices)[index]? = some price) :
    prices.countP (fun other => !totalLE price other) ≤ index := by
  obtain ⟨hindex, hprice⟩ := List.getElem?_eq_some_iff.1 h
  have hsplit := countP_take_add_drop index (fun other => !totalLE price other) (ascending prices)
  have hbefore := List.countP_le_length (p := fun other => !totalLE price other)
    (l := (ascending prices).take index)
  have hafter : ((ascending prices).drop index).countP (fun other => !totalLE price other) = 0 := by
    rw [List.countP_eq_zero]
    intro other hother
    obtain ⟨offset, hoffset, rfl⟩ := List.mem_drop_iff_getElem.1 hother
    simp [← hprice, totalLE_getElem_ascending (Nat.le_add_right index offset) hindex (by omega)]
  rw [(ascending_perm prices).countP_eq] at hsplit
  rw [List.length_take] at hbefore
  omega

/-- At most the prices after the sorted price at `index` are above it. -/
theorem countP_above_le {prices : List Double} {index : Nat} {price : Double}
    (h : (ascending prices)[index]? = some price) :
    prices.countP (fun other => !totalLE other price) ≤ prices.length - (index + 1) := by
  obtain ⟨hindex, hprice⟩ := List.getElem?_eq_some_iff.1 h
  have hsplit :=
    countP_take_add_drop (index + 1) (fun other => !totalLE other price) (ascending prices)
  have hbefore :
      ((ascending prices).take (index + 1)).countP (fun other => !totalLE other price) = 0 := by
    rw [List.countP_eq_zero]
    intro other hother
    obtain ⟨place, hplace, rfl⟩ := List.mem_take_iff_getElem.1 hother
    simp [← hprice, totalLE_getElem_ascending (show place ≤ index by omega) (by omega) hindex]
  have hafter := List.countP_le_length (p := fun other => !totalLE other price)
    (l := (ascending prices).drop (index + 1))
  rw [(ascending_perm prices).countP_eq] at hsplit
  rw [List.length_drop, length_ascending] at hafter
  omega

/-- If fewer prices fail a test than are kept, a price that is kept passes it. -/
theorem exists_mem_of_countP_lt {prices kept : List Double} {test : Double → Bool}
    (hkept : kept.Sublist prices) (hfew : prices.countP (fun price => !test price) < kept.length) :
    ∃ price ∈ kept, test price = true := by
  -- Otherwise all that are kept fail it, and they are among the prices.
  refine Decidable.byContradiction fun hnone => ?_
  have hall : kept.countP (fun price => !test price) = kept.length := by
    rw [List.countP_eq_length]
    intro price hprice
    rw [Bool.not_eq_true', Bool.eq_false_iff]
    intro hpasses
    exact hnone ⟨price, hprice, hpasses⟩
  have hmono := hkept.countP_le (p := fun price => !test price)
  omega

/-- Any majority of some prices has one at or below their lower middle, and one at or above their
    upper middle. -/
theorem exists_mem_of_majority {prices kept : List Double} {lower upper : Double}
    (hkept : kept.Sublist prices) (hmajority : prices.length < 2 * kept.length)
    (hlower : lowerMiddle? prices = some lower) (hupper : upperMiddle? prices = some upper) :
    (∃ low ∈ kept, totalLE low lower = true) ∧ ∃ high ∈ kept, totalLE upper high = true := by
  have habove := countP_above_le hlower
  have hbelow := countP_below_le hupper
  constructor
  · apply exists_mem_of_countP_lt hkept
    omega
  · apply exists_mem_of_countP_lt hkept
    omega

section Usable

variable {prices : List Double} {lower upper median : Double}

/-- The median of usable prices is between the two in the middle if their sum does not overflow. -/
theorem median?_between_middles (husable : ∀ price ∈ prices, isUsablePrice price = true)
    (hlower : lowerMiddle? prices = some lower) (hupper : upperMiddle? prices = some upper)
    (hfits : ¬ MiddleOverflows prices) (hmedian : median? prices = some median) :
    median.negative = false ∧ lower.magnitude ≤ median.magnitude ∧
    median.magnitude ≤ upper.magnitude := by
  have hlow := husable lower (mem_of_getElem?_ascending hlower)
  have hup := husable upper (mem_of_getElem?_ascending hupper)
  rcases Nat.mod_two_eq_zero_or_one prices.length with heven | hodd
  · have hne : prices ≠ [] := by
      rintro rfl
      cases hlower
    obtain ⟨lower', upper', hlower', hupper', hle⟩ := exists_middle hne
    obtain rfl : lower = lower' := Option.some.inj (hlower.symm.trans hlower')
    obtain rfl : upper = upper' := Option.some.inj (hupper.symm.trans hupper')
    have hsum : (lower + upper).isFinite = true := by
      rw [isFinite_add_iff hlow hup, ← Nat.not_le]
      exact fun hover => hfits ⟨heven, lower, hlower, upper, hupper, hover⟩
    rw [median?_of_even heven hlower hupper, Option.some.injEq] at hmedian
    rw [← hmedian]
    exact mean_between hlow hup ((totalLE_iff_magnitude_le hlow hup).1 hle) hsum
  · obtain ⟨hisLower, hisUpper⟩ := median?_of_odd hodd
    obtain rfl : lower = median := Option.some.inj (hlower.symm.trans (hisLower.symm.trans hmedian))
    obtain rfl : upper = lower := Option.some.inj (hupper.symm.trans (hisUpper.symm.trans hmedian))
    exact ⟨(isUsablePrice_iff.1 hlow).1, Nat.le_refl _, Nat.le_refl _⟩

/-- Then it is usable itself. -/
theorem isUsablePrice_median? (husable : ∀ price ∈ prices, isUsablePrice price = true)
    (hfits : ¬ MiddleOverflows prices) (hmedian : median? prices = some median) :
    isUsablePrice median = true := by
  have hne : prices ≠ [] := by
    rintro rfl
    cases hmedian
  obtain ⟨lower, upper, hlower, hupper, _⟩ := exists_middle hne
  obtain ⟨_, hpos, _⟩ := isUsablePrice_iff.1 (husable lower (mem_of_getElem?_ascending hlower))
  obtain ⟨_, _, hlt⟩ := isUsablePrice_iff.1 (husable upper (mem_of_getElem?_ascending hupper))
  obtain ⟨hsign, hbelow, habove⟩ := median?_between_middles husable hlower hupper hfits hmedian
  exact isUsablePrice_iff.2 ⟨hsign, Nat.lt_of_lt_of_le hpos hbelow, Nat.lt_of_le_of_lt habove hlt⟩

/-- If the sum of the two usable prices in the middle overflows, the median is infinite. -/
theorem median?_of_overflow (husable : ∀ price ∈ prices, isUsablePrice price = true)
    (hover : MiddleOverflows prices) : median? prices = some infinity := by
  obtain ⟨heven, lower, hlower, upper, hupper, hunits⟩ := hover
  have hlow := husable lower (mem_of_getElem?_ascending hlower)
  have hup := husable upper (mem_of_getElem?_ascending hupper)
  have hsum : (lower + upper).isFinite = false := by
    rw [Bool.eq_false_iff, ne_eq, isFinite_add_iff hlow hup]
    exact Nat.not_lt.2 hunits
  rw [median?_of_even heven hlower hupper, mean_of_overflow hlow hup hsum]

/-- The median of usable prices is between prices of any majority of them if nothing overflows. -/
theorem median?_between_of_majority {kept : List Double}
    (husable : ∀ price ∈ prices, isUsablePrice price = true) (hfits : ¬ MiddleOverflows prices)
    (hkept : kept.Sublist prices) (hmajority : prices.length < 2 * kept.length)
    (hmedian : median? prices = some median) :
    (∃ low ∈ kept, Double.le low median = true) ∧ ∃ high ∈ kept, Double.le median high = true := by
  have hne : prices ≠ [] := by
    rintro rfl
    cases hmedian
  obtain ⟨lower, upper, hlower, hupper, _⟩ := exists_middle hne
  have hlowerUsable := husable lower (mem_of_getElem?_ascending hlower)
  have hupperUsable := husable upper (mem_of_getElem?_ascending hupper)
  have hupperFinite := (isUsablePrice_iff.1 hupperUsable).2.2
  obtain ⟨hsign, hbelow, habove⟩ := median?_between_middles husable hlower hupper hfits hmedian
  obtain ⟨⟨low, hlow, hlowLE⟩, high, hhigh, hhighLE⟩ :=
    exists_mem_of_majority hkept hmajority hlower hupper
  constructor
  · have hlowUsable := husable low (hkept.mem hlow)
    obtain ⟨hlowSign, _, hlowFinite⟩ := isUsablePrice_iff.1 hlowUsable
    rw [totalLE_iff_magnitude_le hlowUsable hlowerUsable] at hlowLE
    refine ⟨low, hlow, (le_iff_magnitude_le hlowSign hsign (by omega) (by omega)).2 (by omega)⟩
  · have hhighUsable := husable high (hkept.mem hhigh)
    obtain ⟨hhighSign, _, hhighFinite⟩ := isUsablePrice_iff.1 hhighUsable
    rw [totalLE_iff_magnitude_le hupperUsable hhighUsable] at hhighLE
    exact ⟨high, hhigh, (le_iff_magnitude_le hsign hhighSign (by omega) (by omega)).2 (by omega)⟩

end Usable

end FeeOracle.Consensus
