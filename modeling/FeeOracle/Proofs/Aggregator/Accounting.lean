import FeeOracle.Proofs.Aggregator.Round
import Mathlib.Data.List.Forall2

/-!
# Every source is accounted for

What becomes of a source when the deadline is over is told by the source alone (`Source.Settles`). A
lookup reports every source exactly once, among the readings if it gave a price that counts and
among the failures otherwise, and both lists keep the order of the sources.
-/

namespace FeeOracle

/-- What becomes of a source that is asked for a pair and waited for until a timeout. -/
inductive Source.Settles (source : Source) (timeout : Nat) (pair : TickerPair) :
    Except SourceError Double → Prop
  /-- A finite price above zero, in time. -/
  | price {delay : Nat} {price : Double} (hdelay : (source.respond pair).delay = some delay)
      (hinTime : delay ≤ timeout) (houtcome : (source.respond pair).outcome = .ok price)
      (hfinite : price.isFinite = true) (hpositive : Double.lt 0 price = true) :
      Settles source timeout pair (.ok price)
  /-- Any other price, in time. -/
  | unusable {delay : Nat} {price : Double} (hdelay : (source.respond pair).delay = some delay)
      (hinTime : delay ≤ timeout) (houtcome : (source.respond pair).outcome = .ok price)
      (hunusable : price.isFinite = false ∨ Double.lt 0 price = false) :
      Settles source timeout pair (.error (.invalidPrice source.name price))
  /-- An error of the source's own, in time. -/
  | failed {delay : Nat} {error : SourceError} (hdelay : (source.respond pair).delay = some delay)
      (hinTime : delay ≤ timeout) (houtcome : (source.respond pair).outcome = .error error) :
      Settles source timeout pair (.error error)
  /-- Nothing in time. -/
  | late (hlate : ∀ delay ∈ (source.respond pair).delay, timeout < delay) :
      Settles source timeout pair (.error (.timeout source.name))

/-- The finite price above zero that a source gives in time, if it does. -/
def Source.validPrice? (source : Source) (timeout : Nat) (pair : TickerPair) : Option Double :=
  match (source.respond pair).delay, (source.respond pair).outcome with
  | some delay, .ok price =>
    if delay ≤ timeout ∧ price.isFinite ∧ Double.lt 0 price then some price else none
  | _, _ => none

/-- Two sources of one name that nobody can tell apart by the deadline: what a late response holds
    does not matter, nor does how late it is. -/
def Source.AlikeByDeadline (timeout : Nat) (pair : TickerPair) (one other : Source) : Prop :=
  one.name = other.name ∧
    (one.respond pair).inTime timeout = (other.respond pair).inTime timeout ∧
    ((one.respond pair).inTime timeout = true →
    (one.respond pair).outcome = (other.respond pair).outcome)

namespace Source

variable {timeout : Nat} {pair : TickerPair}

/-- The answer that counts is what becomes of the source. -/
theorem settles_answer (source : Source) (timeout : Nat) (pair : TickerPair) :
    source.Settles timeout pair (source.answer timeout pair) := by
  rw [answer_eq]
  cases hdelay : (source.respond pair).delay with
  | none =>
    rw [if_neg (by simp [Response.inTime, hdelay])]
    exact .late (by simp [hdelay])
  | some delay =>
    by_cases hinTime : delay ≤ timeout
    · rw [if_pos (by simpa [Response.inTime, hdelay] using hinTime)]
      cases houtcome : (source.respond pair).outcome with
      | error error => exact .failed hdelay hinTime houtcome
      | ok price =>
        simp only [Except.bind, validatePrice]
        split
        next husable =>
          obtain ⟨hfinite, hpositive⟩ := Bool.and_eq_true_iff.1 husable
          exact .price hdelay hinTime houtcome hfinite hpositive
        next hunusable =>
          refine .unusable hdelay hinTime houtcome ?_
          simpa [isUsablePrice, Classical.or_iff_not_imp_left] using hunusable
    · rw [if_neg (by simpa [Response.inTime, hdelay] using hinTime)]
      refine .late ?_
      simp only [hdelay, Option.mem_some_iff, forall_eq']
      omega

/-- A source settles with a price if and only if the price is valid. -/
theorem Settles.toOption_eq {source : Source} {answer : Except SourceError Double}
    (h : source.Settles timeout pair answer) :
    answer.toOption = source.validPrice? timeout pair := by
  cases h with
  | price hdelay hinTime houtcome hfinite hpositive =>
    simp [validPrice?, hdelay, houtcome, hinTime, hfinite, hpositive, Except.toOption]
  | unusable hdelay hinTime houtcome hunusable =>
    rcases hunusable with hunusable | hunusable <;>
      simp [validPrice?, hdelay, houtcome, hunusable, Except.toOption]
  | failed hdelay hinTime houtcome => simp [validPrice?, hdelay, houtcome, Except.toOption]
  | late hlate =>
    cases hdelay : (source.respond pair).delay with
    | none => simp [validPrice?, hdelay, Except.toOption]
    | some delay =>
      have hlate := hlate delay hdelay
      cases houtcome : (source.respond pair).outcome <;>
        simp [validPrice?, hdelay, houtcome, Except.toOption, Nat.not_le_of_lt hlate]

/-- Sources that nobody can tell apart by the deadline have the same answer. -/
theorem AlikeByDeadline.answer_eq {one other : Source}
    (h : AlikeByDeadline timeout pair one other) :
    one.answer timeout pair = other.answer timeout pair := by
  obtain ⟨hname, hinTime, houtcome⟩ := h
  rw [Source.answer_eq, Source.answer_eq, hname, ← hinTime]
  split
  next hthere => rw [houtcome hthere]
  next => rfl

end Source

/-- Readings for a pair that account for every one of some sources: those with a valid price are the
    readings, and the others are the failures, each list in the order of the sources. -/
structure Readings.Account (readings : Readings) (sources : List Source) (timeout : Nat)
    (pair : TickerPair) : Prop where
  successes : List.Forall₂
    (fun source reading => reading.source = source.name ∧ reading.pair = pair ∧
      source.Settles timeout pair (.ok reading.price))
    (sources.filter fun source => (source.validPrice? timeout pair).isSome) readings.successes
  failures : List.Forall₂
    (fun source failure => failure.source = source.name ∧
    source.Settles timeout pair (.error failure.error))
    (sources.filter fun source => (source.validPrice? timeout pair).isNone) readings.failures

namespace Aggregator

variable {aggregator : Aggregator} {now : Nat} {pair : TickerPair}

private theorem forall₂_filter_filterMap {α β : Type} {related : α → β → Prop} {test : α → Bool}
    {select : α → Option β} {items : List α}
    (hchosen : ∀ item ∈ items, test item = (select item).isSome)
    (hrelated : ∀ item ∈ items, ∀ result ∈ select item, related item result) :
    List.Forall₂ related (items.filter test) (items.filterMap select) := by
  induction items with
  | nil => exact .nil
  | cons item items ih =>
    rw [List.forall_mem_cons] at hchosen hrelated
    have hrest := ih hchosen.2 hrelated.2
    cases hselect : select item with
    | none =>
      rwa [List.filter_cons_of_neg (by simp [hchosen.1, hselect]), List.filterMap_cons_none hselect]
    | some result =>
      rw [List.filter_cons_of_pos (by simp [hchosen.1, hselect]), List.filterMap_cons_some hselect]
      exact .cons (hrelated.1 result hselect) hrest

/-- The readings of a lookup, source by source. -/
theorem successes_readings (aggregator : Aggregator) (pair : TickerPair) :
    (aggregator.readings pair).successes = aggregator.sources.filterMap fun source =>
      (source.answer aggregator.timeout pair).toOption.map fun price =>
        { source := source.name, pair, price } := by
  simp only [readings, answers, Answers.successes, List.filterMap_map]
  rfl

/-- The failures of a lookup, source by source. -/
theorem failures_readings (aggregator : Aggregator) (pair : TickerPair) :
    (aggregator.readings pair).failures = aggregator.sources.filterMap fun source =>
      match source.answer aggregator.timeout pair with
      | .ok _ => none
      | .error error => some { source := source.name, error } := by
  simp only [readings, answers, Answers.failures, List.filterMap_map]
  refine List.filterMap_congr fun source _ => ?_
  cases hanswer : source.answer aggregator.timeout pair <;> simp only [Function.comp_apply, hanswer]

/-- The readings of a lookup account for its sources. -/
theorem account_readings (aggregator : Aggregator) (pair : TickerPair) :
    (aggregator.readings pair).Account aggregator.sources aggregator.timeout pair where
  successes := by
    rw [successes_readings]
    refine forall₂_filter_filterMap ?_ ?_
    · intro source _
      rw [Option.isSome_map, (source.settles_answer aggregator.timeout pair).toOption_eq]
    · intro source _ reading hreading
      have hsettles := source.settles_answer aggregator.timeout pair
      cases hanswer : source.answer aggregator.timeout pair with
      | error error => simp [hanswer, Except.toOption] at hreading
      | ok price =>
        obtain rfl : { source := source.name, pair, price } = reading := by
          simpa [hanswer, Except.toOption] using hreading
        rw [hanswer] at hsettles
        exact ⟨rfl, rfl, hsettles⟩
  failures := by
    rw [failures_readings]
    refine forall₂_filter_filterMap ?_ ?_
    · intro source _
      rw [← (source.settles_answer aggregator.timeout pair).toOption_eq]
      cases source.answer aggregator.timeout pair <;> rfl
    · intro source _ failure hfailure
      have hsettles := source.settles_answer aggregator.timeout pair
      cases hanswer : source.answer aggregator.timeout pair with
      | ok price => simp [hanswer] at hfailure
      | error error =>
        obtain rfl : { source := source.name, error } = failure := by simpa [hanswer] using hfailure
        rw [hanswer] at hsettles
        exact ⟨rfl, hsettles⟩

/-- Sources that nobody can tell apart by the deadline make for the same readings. -/
theorem readings_eq_of_alike {other : Aggregator} (htimeout : other.timeout = aggregator.timeout)
    (halike : List.Forall₂ (Source.AlikeByDeadline aggregator.timeout pair)
      aggregator.sources other.sources) :
    other.readings pair = aggregator.readings pair := by
  have hanswers : other.answers pair = aggregator.answers pair := by
    rw [answers, answers, htimeout]
    -- The induction needs both lists of sources to be free of their aggregators.
    generalize aggregator.sources = sources at halike
    generalize other.sources = otherSources at halike
    induction halike with
    | nil => rfl
    | cons hhead _ ih => rw [List.map_cons, List.map_cons, ih, hhead.answer_eq, hhead.1]
  rw [readings, readings, hanswers]

/-- What is asked of one source alone. -/
def alone (aggregator : Aggregator) (source : Source) : Aggregator :=
  { aggregator with sources := [source] }

/-- The readings are those of each source asked alone, one after the other. -/
theorem readings_eq_flatMap_alone (aggregator : Aggregator) (pair : TickerPair) :
    aggregator.readings pair =
      { successes := aggregator.sources.flatMap fun source =>
        ((aggregator.alone source).readings pair).successes
        failures := aggregator.sources.flatMap fun source =>
          ((aggregator.alone source).readings pair).failures } := by
  have hone {β : Type} (select : Source → Option β) (source : Source) :
      [source].filterMap select = (select source).toList := by
    cases hselect : select source <;> simp [hselect]
  rw [readings, Readings.mk.injEq]
  refine ⟨?_, ?_⟩
  · simp only [successes_readings, alone, hone, ← List.filterMap_eq_flatMap_toList]
    rw [← successes_readings]
    rfl
  · simp only [failures_readings, alone, hone, ← List.filterMap_eq_flatMap_toList]
    rw [← failures_readings]
    rfl

/-- However a lookup with a deadline goes, it comes to its end if all sources are looked at again
    and again, and then it accounts for every source once. It ends when the last source is done
    with. Each source is reported on as if it was asked alone, at whatever time, and sources that
    nobody can tell apart by the deadline make for the same report. -/
theorem readingsAfter?_account (aggregator : Aggregator) (now : Nat) (pair : TickerPair)
    (hdeadline : now + aggregator.timeout < clockEnd) :
    (∀ cycles : List (List Turn), (∀ turns ∈ cycles, Turn.IsCycle aggregator.sources.length turns) →
      aggregator.duration pair < cycles.length →
      (aggregator.readingsAfter? now pair cycles.flatten).isSome = true) ∧
    ∀ turns readings, aggregator.readingsAfter? now pair turns = some readings →
      readings.Account aggregator.sources aggregator.timeout pair ∧
      (∃ round, aggregator.roundAfter? now pair turns = some round ∧
        round.clock = now + aggregator.duration pair) ∧
      (∀ report : Source → Readings,
        (∀ source ∈ aggregator.sources, ∃ begun otherTurns,
          (aggregator.alone source).readingsAfter? begun pair otherTurns = some (report source)) →
        readings.successes = aggregator.sources.flatMap (fun source => (report source).successes) ∧
          readings.failures = aggregator.sources.flatMap (fun source => (report source).failures)) ∧
      ∀ (other : Aggregator) (begun : Nat) (otherTurns : List Turn) (otherReadings : Readings),
        other.timeout = aggregator.timeout →
        List.Forall₂ (Source.AlikeByDeadline aggregator.timeout pair)
          aggregator.sources other.sources →
        other.readingsAfter? begun pair otherTurns = some otherReadings →
        otherReadings = readings := by
  refine ⟨fun cycles hcycles hlong => isSome_readingsAfter?_of_cycles hdeadline hcycles hlong, ?_⟩
  intro turns readings h
  obtain ⟨rfl, hround⟩ := readings_eq_of_readingsAfter? h
  refine ⟨aggregator.account_readings pair, hround, ?_, ?_⟩
  · intro report hreport
    have hsame : ∀ source ∈ aggregator.sources,
        (aggregator.alone source).readings pair = report source := by
      intro source hsource
      obtain ⟨begun, otherTurns, hsome⟩ := hreport source hsource
      exact (readings_eq_of_readingsAfter? hsome).1.symm
    rw [readings_eq_flatMap_alone]
    exact ⟨List.flatMap_congr fun source hsource => by rw [hsame source hsource],
      List.flatMap_congr fun source hsource => by rw [hsame source hsource]⟩
  · intro other begun otherTurns otherReadings htimeout halike hother
    obtain ⟨rfl, -⟩ := readings_eq_of_readingsAfter? hother
    exact readings_eq_of_alike htimeout halike

/-- An aggregator whose sources settle in every possible way. -/
def everyWay : Aggregator where
  sources := [
    { name := "slow", respond := fun _ => { delay := some 2, outcome := .ok 5 } },
    { name := "down", respond := fun _ =>
      { delay := some 1, outcome := .error (.http "down" "refused") } },
    { name := "wrong", respond := fun _ => { delay := some 0, outcome := .ok (-5) } },
    { name := "late", respond := fun _ => { delay := some 9, outcome := .ok 7 } },
    { name := "silent", respond := fun _ => { delay := none, outcome := .ok 7 } },
    { name := "quick", respond := fun _ => { delay := some 0, outcome := .ok 3 } }]
  timeout := 3

/-- Turns that look at the sources from the last to the first, and then let a moment go by. -/
def backwards : List Turn := [.look 5, .look 4, .look 3, .look 2, .look 1, .look 0] ++ [.wait 1]

theorem isCycle_of_mem_replicate_backwards {count : Nat} :
    ∀ turns ∈ List.replicate count backwards, Turn.IsCycle everyWay.sources.length turns := by
  intro turns hturns
  rw [List.eq_of_mem_replicate hturns]
  exact ⟨_, 0, rfl, by decide⟩

/-- Four cycles see its lookup to the end. -/
theorem readingsAfter?_account_everyWay :
    1000 + everyWay.timeout < clockEnd ∧
      ∃ readings, everyWay.readingsAfter? 1000 ⟨"ADA", "USD"⟩ (List.replicate 4 backwards).flatten =
        some readings ∧
        readings.Account everyWay.sources everyWay.timeout ⟨"ADA", "USD"⟩ := by
  have hdeadline : 1000 + everyWay.timeout < clockEnd := by decide +kernel
  obtain ⟨hends, haccounts⟩ := readingsAfter?_account everyWay 1000 ⟨"ADA", "USD"⟩ hdeadline
  have hsome := hends (List.replicate 4 backwards) isCycle_of_mem_replicate_backwards (by decide)
  obtain ⟨readings, hreadings⟩ := Option.isSome_iff_exists.1 hsome
  exact ⟨hdeadline, readings, hreadings, (haccounts _ readings hreadings).1⟩

end Aggregator
end FeeOracle
