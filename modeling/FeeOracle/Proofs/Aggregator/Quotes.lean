import FeeOracle.Proofs.Aggregator.Accounting
import FeeOracle.Proofs.Consensus.Median
import Mathlib.Data.Multiset.Basic

/-!
# What a quote depends on

A quote is the median of the valid prices and depends on nothing else: not on the order of the
sources, on their names or delays, nor on those that fail. It is between valid prices unless the
median overflows (`Readings.quote_between`).
-/

namespace FeeOracle

open Consensus

/-- The valid prices for a pair, in the order of the sources. -/
def Aggregator.validPrices (aggregator : Aggregator) (pair : TickerPair) : List Double :=
  aggregator.sources.filterMap fun source => source.validPrice? aggregator.timeout pair

/-- A valid price is usable. -/
theorem Source.isUsablePrice_of_validPrice? {source : Source} {timeout : Nat} {pair : TickerPair}
    {price : Double} (h : source.validPrice? timeout pair = some price) :
    isUsablePrice price = true := by
  have hsettles := source.settles_answer timeout pair
  rw [← hsettles.toOption_eq] at h
  cases hanswer : source.answer timeout pair with
  | error error => simp [hanswer, Except.toOption] at h
  | ok answered =>
    obtain rfl : answered = price := by simpa [hanswer, Except.toOption] using h
    exact source.answer_usable hanswer

namespace Aggregator

variable {aggregator : Aggregator} {now : Nat} {pair : TickerPair} {turns : List Turn}

theorem isUsablePrice_of_mem_validPrices :
    ∀ price ∈ aggregator.validPrices pair, isUsablePrice price = true := by
  intro price hprice
  obtain ⟨source, _, hvalid⟩ := List.mem_filterMap.1 hprice
  exact source.isUsablePrice_of_validPrice? hvalid

/-- The prices of the readings are the valid prices. -/
theorem map_price_successes (aggregator : Aggregator) (pair : TickerPair) :
    (aggregator.readings pair).successes.map (·.price) = aggregator.validPrices pair := by
  rw [successes_readings, List.map_filterMap, validPrices]
  refine List.filterMap_congr fun source _ => ?_
  rw [Option.map_map, ← (source.settles_answer aggregator.timeout pair).toOption_eq]
  exact Option.map_id'

/-- Without a valid price there is a failure for every source. -/
theorem failures_of_validPrices_eq_nil (h : aggregator.validPrices pair = []) :
    List.Forall₂
      (fun source failure => failure.source = source.name ∧
        source.Settles aggregator.timeout pair (.error failure.error))
      aggregator.sources (aggregator.readings pair).failures := by
  have hfailures := (aggregator.account_readings pair).failures
  rwa [List.filter_eq_self.2] at hfailures
  intro source hsource
  rw [Option.isNone_iff_eq_none]
  exact List.filterMap_eq_nil_iff.1 h source hsource

/-- The quote is the median of the valid prices. -/
theorem quote_eq (aggregator : Aggregator) (pair : TickerPair) :
    aggregator.quote pair =
      match median? (aggregator.validPrices pair) with
      | some median => .ok median
      | none => .error { pair, errors := (aggregator.readings pair).failures } := by
  cases hmedian : median? (aggregator.validPrices pair) <;>
    simp [quote, Readings.quote, map_price_successes, hmedian]

/-- There is no quote if and only if there is no valid price. -/
theorem quote_eq_error_iff {error : NoQuote} :
    aggregator.quote pair = .error error ↔
      aggregator.validPrices pair = [] ∧
      { pair, errors := (aggregator.readings pair).failures } = error := by
  rw [quote_eq, ← median?_eq_none_iff]
  cases median? (aggregator.validPrices pair) <;> simp

theorem quote_eq_ok_iff {price : Double} :
    aggregator.quote pair = .ok price ↔ median? (aggregator.validPrices pair) = some price := by
  rw [quote_eq]
  cases median? (aggregator.validPrices pair) <;> simp

/-- A quote is above zero and not below all valid prices. It is finite and not above all of them
    unless the median overflows, and then it is infinite. -/
theorem quote_between {price : Double} (h : aggregator.quote pair = .ok price) :
    Double.lt 0 price = true ∧
      (∃ low ∈ aggregator.validPrices pair, Double.le low price = true) ∧
      ((price.isFinite = true ∧ ∃ high ∈ aggregator.validPrices pair, Double.le price high = true) ↔
        ¬ MiddleOverflows (aggregator.validPrices pair)) ∧
      (MiddleOverflows (aggregator.validPrices pair) → price = Double.infinity) := by
  have husable : ∀ price ∈ aggregator.validPrices pair, isUsablePrice price = true :=
    isUsablePrice_of_mem_validPrices
  have hmedian := quote_eq_ok_iff.1 h
  have hne : aggregator.validPrices pair ≠ [] := by
    intro hnil
    rw [hnil] at hmedian
    cases hmedian
  by_cases hover : MiddleOverflows (aggregator.validPrices pair)
  · obtain rfl : Double.infinity = price := by
      rw [median?_of_overflow husable hover] at hmedian
      exact Option.some.inj hmedian
    have hinfinite : Double.infinity.isFinite = false := by decide +kernel
    obtain ⟨low, hlow⟩ := List.exists_mem_of_ne_nil _ hne
    obtain ⟨hlowSign, _, hlowFinite⟩ := isUsablePrice_iff.1 (husable low hlow)
    refine ⟨by decide +kernel, ⟨low, hlow, ?_⟩, by simp [hinfinite, hover], fun _ => rfl⟩
    exact (le_iff_magnitude_le hlowSign rfl (Nat.le_of_lt hlowFinite) (Nat.le_refl _)).2
      (Nat.le_of_lt hlowFinite)
  · obtain ⟨hfinite, hpositive⟩ :=
      Bool.and_eq_true_iff.1 (isUsablePrice_median? husable hover hmedian)
    -- All valid prices are a majority of themselves.
    have hmajority :
        (aggregator.validPrices pair).length < 2 * (aggregator.validPrices pair).length := by
      have hpos := List.length_pos_iff.2 hne
      omega
    obtain ⟨hlow, hhigh⟩ :=
      median?_between_of_majority husable hover (List.Sublist.refl _) hmajority hmedian
    exact ⟨hpositive, hlow, by simp only [hfinite, hhigh, hover, and_self, not_false_eq_true],
      fun h => absurd h hover⟩

/-- Whatever turns see a lookup to its end, it brings the same quote. -/
theorem quote_eq_of_quoteAfter? {result : Except NoQuote Double}
    (h : aggregator.quoteAfter? now pair turns = some result) : aggregator.quote pair = result := by
  obtain ⟨readings, hreadings, rfl⟩ := Option.map_eq_some_iff.1 h
  rw [(readings_eq_of_readingsAfter? hreadings).1, quote]

/-- A lookup that has a deadline brings a quote or none in the end, and that depends on nothing but
    which valid prices there are: two lookups that see the same ones bring the same quote, whatever
    else may be different about them. Without a valid price there is no quote, and each source is
    told of in its turn. -/
theorem quoteAfter?_of_validPrices (aggregator other : Aggregator) (now otherNow : Nat)
    (pair otherPair : TickerPair) :
    (now + aggregator.timeout < clockEnd →
      ∀ cycles : List (List Turn),
        (∀ turns ∈ cycles, Turn.IsCycle aggregator.sources.length turns) →
        aggregator.duration pair < cycles.length →
          (aggregator.quoteAfter? now pair cycles.flatten).isSome = true) ∧
    ∀ turns result, aggregator.quoteAfter? now pair turns = some result →
      (∀ otherTurns otherResult,
        other.quoteAfter? otherNow otherPair otherTurns = some otherResult →
        (aggregator.validPrices pair : Multiset Double) = other.validPrices otherPair →
        aggregator.validPrices pair ≠ [] → ∃ price, result = .ok price ∧ otherResult = .ok price) ∧
      ((∃ error, result = .error error) ↔ aggregator.validPrices pair = []) ∧
      ∀ error, result = .error error → error.pair = pair ∧
        List.Forall₂
          (fun source failure => failure.source = source.name ∧
            source.Settles aggregator.timeout pair (.error failure.error))
          aggregator.sources error.errors := by
  constructor
  · intro hdeadline cycles hcycles hlong
    rw [quoteAfter?, Option.isSome_map]
    exact isSome_readingsAfter?_of_cycles hdeadline hcycles hlong
  · intro turns result h
    have hresult := quote_eq_of_quoteAfter? h
    subst hresult
    refine ⟨?_, ?_, ?_⟩
    · intro otherTurns otherResult hother hsame hne
      have hotherResult := quote_eq_of_quoteAfter? hother
      subst hotherResult
      obtain ⟨price, hprice⟩ := Option.ne_none_iff_exists'.1 (mt median?_eq_none_iff.1 hne)
      refine ⟨price, quote_eq_ok_iff.2 hprice, quote_eq_ok_iff.2 ?_⟩
      rw [← hprice, median?_eq_of_perm (Multiset.coe_eq_coe.1 hsame)]
    · constructor
      · rintro ⟨error, herror⟩
        exact (quote_eq_error_iff.1 herror).1
      · intro hnil
        exact ⟨_, quote_eq_error_iff.2 ⟨hnil, rfl⟩⟩
    · intro error herror
      obtain ⟨hnil, rfl⟩ := quote_eq_error_iff.1 herror
      exact ⟨rfl, failures_of_validPrices_eq_nil hnil⟩

/-- An aggregator whose sources respond with the given prices at once. -/
def ofPrices (prices : List Double) : Aggregator where
  sources := prices.map fun price =>
    { name := "venue", respond := fun _ => { delay := some 0, outcome := .ok price } }
  timeout := 0

theorem validPrices_ofPrices {prices : List Double}
    (husable : ∀ price ∈ prices, isUsablePrice price = true) (pair : TickerPair) :
    (ofPrices prices).validPrices pair = prices := by
  rw [validPrices, ofPrices, List.filterMap_map]
  conv_rhs => rw [← List.filterMap_some (l := prices)]
  refine List.filterMap_congr fun price hprice => ?_
  obtain ⟨hfinite, hpositive⟩ := Bool.and_eq_true_iff.1 (husable price hprice)
  simp [Source.validPrice?, hfinite, hpositive]

/-- A lookup with two valid prices among failures and one with the same prices the other way
    round. -/
theorem quoteAfter?_of_validPrices_everyWay :
    (everyWay.validPrices ⟨"ADA", "USD"⟩ : Multiset Double) =
      (ofPrices [3, 5]).validPrices ⟨"ETH", "USD"⟩ ∧
      everyWay.validPrices ⟨"ADA", "USD"⟩ ≠ [] ∧
      ∃ price,
        everyWay.quoteAfter? 1000 ⟨"ADA", "USD"⟩ (List.replicate 4 backwards).flatten =
          some (.ok price) ∧
        (ofPrices [3, 5]).quoteAfter? 7 ⟨"ETH", "USD"⟩ [.look 1, .look 0] = some (.ok price) := by
  have hprices : everyWay.validPrices ⟨"ADA", "USD"⟩ = [5, 3] := by decide +kernel
  have hotherPrices :=
    validPrices_ofPrices (show ∀ price ∈ ([3, 5] : List Double), isUsablePrice price = true by
    decide +kernel) ⟨"ETH", "USD"⟩
  have hsame : (everyWay.validPrices ⟨"ADA", "USD"⟩ : Multiset Double) =
      (ofPrices [3, 5]).validPrices ⟨"ETH", "USD"⟩ := by
    rw [hprices, hotherPrices]
    exact Multiset.coe_eq_coe.2 (.swap ..)
  have hne : everyWay.validPrices ⟨"ADA", "USD"⟩ ≠ [] := by
    rw [hprices]
    exact List.cons_ne_nil 5 [3]
  obtain ⟨hends, hquote⟩ :=
    quoteAfter?_of_validPrices everyWay (ofPrices [3, 5]) 1000 7 ⟨"ADA", "USD"⟩ ⟨"ETH", "USD"⟩
  have hsome := hends (by decide +kernel)
    (List.replicate 4 backwards) isCycle_of_mem_replicate_backwards (by decide)
  have hotherSome :
      ((ofPrices [3, 5]).quoteAfter? 7 ⟨"ETH", "USD"⟩ [.look 1, .look 0]).isSome = true := by
    decide +kernel
  obtain ⟨result, hresult⟩ := Option.isSome_iff_exists.1 hsome
  obtain ⟨otherResult, hotherResult⟩ := Option.isSome_iff_exists.1 hotherSome
  obtain ⟨price, rfl, rfl⟩ := (hquote _ result hresult).1 _ otherResult hotherResult hsame hne
  exact ⟨hsame, hne, price, hresult, hotherResult⟩

end Aggregator
end FeeOracle
