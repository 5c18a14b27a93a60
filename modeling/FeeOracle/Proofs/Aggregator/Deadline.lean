import FeeOracle.Exchange.Adapter
import FeeOracle.Proofs.Aggregator.Quotes
import FeeOracle.Proofs.Configuration.Loaded

/-!
# Lookups that have a deadline

A lookup begins, goes on and comes to its end if its deadline lies on the clock, and otherwise it
does not even begin (`exists_readingsAfter?_iff`). What a configuration is checked for bounds the
timeout from below only, so the longest timeout that can be written leaves no lookup a deadline.
-/

namespace FeeOracle

/-- The aggregator over the exchanges as configured waits as long as configured. -/
theorem ExchangeSettings.timeout_of_aggregator {settings : ExchangeSettings}
    {network : Http.Network} {aggregator : Aggregator}
    (h : settings.aggregator network = .ok aggregator) :
    aggregator.timeout = settings.timeoutSeconds * 1000 := by
  unfold ExchangeSettings.aggregator at h
  cases hadapters : settings.adapters with
  | error error => simp [hadapters, Except.map] at h
  | ok adapters =>
    rw [hadapters] at h
    obtain rfl := Except.ok.inj h
    rfl

namespace Aggregator

variable {aggregator : Aggregator} {configuration : Configuration} {now : Nat} {pair : TickerPair}
  {turns : List Turn}

/-- A lookup that has begun has a deadline on the clock. -/
theorem deadline_of_roundAfter? {round : Round}
    (h : aggregator.roundAfter? now pair turns = some round) :
    now + aggregator.timeout < clockEnd := by
  obtain ⟨start, hstart, -⟩ := Option.map_eq_some_iff.1 h
  obtain ⟨deadline, hdeadline, -⟩ := Option.map_eq_some_iff.1 hstart
  unfold deadline? at hdeadline
  split at hdeadline
  next hsoon => exact hsoon
  next => cases hdeadline

/-- There are turns that look at all sources again and again. -/
theorem exists_cycles (aggregator : Aggregator) (pair : TickerPair) :
    ∃ cycles : List (List Turn), (∀ turns ∈ cycles, Turn.IsCycle aggregator.sources.length turns) ∧
      aggregator.duration pair < cycles.length := by
  refine ⟨List.replicate (aggregator.duration pair + 1)
    ((List.range aggregator.sources.length).map Turn.look ++ [.wait 1]), ?_, by simp⟩
  intro turns hturns
  refine ⟨_, 0, List.eq_of_mem_replicate hturns, ?_⟩
  intro index hindex
  exact List.mem_map_of_mem (List.mem_range.2 hindex)

/-- Some turns see a lookup to its end if and only if it has a deadline. -/
theorem exists_readingsAfter?_iff :
    (∃ turns readings, aggregator.readingsAfter? now pair turns = some readings) ↔
      now + aggregator.timeout < clockEnd := by
  constructor
  · rintro ⟨turns, readings, hreadings⟩
    obtain ⟨-, round, hround, -⟩ := readings_eq_of_readingsAfter? hreadings
    exact deadline_of_roundAfter? hround
  · intro hdeadline
    obtain ⟨cycles, hcycles, hlong⟩ := aggregator.exists_cycles pair
    exact ⟨_, Option.isSome_iff_exists.1 (isSome_readingsAfter?_of_cycles hdeadline hcycles hlong)⟩

/-- The clock does not come to its end while a lookup goes on. -/
theorem clock_lt_clockEnd {round : Round} (h : aggregator.roundAfter? now pair turns = some round) :
    round.clock < clockEnd := by
  have hdeadline := deadline_of_roundAfter? h
  have hclock := (sound_of_roundAfter? h).clock_le_finish
  have hduration := aggregator.duration_le_timeout pair
  omega

/-- A lookup that is seen to its end brings the median of the valid prices, or the report that there
    is none. -/
theorem quoteAfter?_eq_some {readings : Readings}
    (h : aggregator.readingsAfter? now pair turns = some readings) :
    (∃ price, aggregator.quoteAfter? now pair turns = some (.ok price) ∧
      Consensus.median? (aggregator.validPrices pair) = some price) ∨
    aggregator.quoteAfter? now pair turns = some (.error { pair, errors := readings.failures }) ∧
      aggregator.validPrices pair = [] := by
  obtain ⟨rfl, -⟩ := readings_eq_of_readingsAfter? h
  have hquote : aggregator.quoteAfter? now pair turns = some (aggregator.quote pair) := by
    rw [quoteAfter?, h]
    rfl
  rw [hquote]
  cases hresult : aggregator.quote pair with
  | ok price => exact .inl ⟨price, rfl, quote_eq_ok_iff.1 hresult⟩
  | error error =>
    obtain ⟨hnil, rfl⟩ := quote_eq_error_iff.1 hresult
    exact .inr ⟨rfl, hnil⟩

/-- Whatever sources are asked under a loaded configuration, a lookup has time to wait for them. It
    comes to an end if and only if its deadline lies on the clock, and in that case it does so as
    soon as every source has been looked at again and again, before the clock ends, and brings the
    median of the valid prices or the report that there are none. -/
theorem lookup_of_isLoaded (hloaded : configuration.IsLoaded) (aggregator : Aggregator)
    (htimeout : aggregator.timeout = configuration.exchange.timeoutSeconds * 1000) (now : Nat)
    (pair : TickerPair) :
    0 < aggregator.timeout ∧
      ((∃ turns readings, aggregator.readingsAfter? now pair turns = some readings) ↔
        now + aggregator.timeout < clockEnd) ∧
      (now + aggregator.timeout < clockEnd →
        ∀ cycles : List (List Turn),
          (∀ turns ∈ cycles, Turn.IsCycle aggregator.sources.length turns) →
          aggregator.duration pair < cycles.length →
          ∃ readings, aggregator.readingsAfter? now pair cycles.flatten = some readings) ∧
      (∀ turns round, aggregator.roundAfter? now pair turns = some round → round.clock < clockEnd) ∧
      ∀ turns readings, aggregator.readingsAfter? now pair turns = some readings →
        (∃ price, aggregator.quoteAfter? now pair turns = some (.ok price) ∧
          Consensus.median? (aggregator.validPrices pair) = some price) ∨
        aggregator.quoteAfter? now pair turns =
          some (.error { pair, errors := readings.failures }) ∧
          aggregator.validPrices pair = [] := by
  refine ⟨?_, exists_readingsAfter?_iff, ?_, fun _ _ => clock_lt_clockEnd,
    fun _ _ => quoteAfter?_eq_some⟩
  · have hpositive := hloaded.isUsable.exchangeTimeout
    omega
  · intro hdeadline cycles hcycles hlong
    exact Option.isSome_iff_exists.1 (isSome_readingsAfter?_of_cycles hdeadline hcycles hlong)

/-- A configuration that waits for three seconds. -/
def shortText : String := "[exchange]\ntimeout_secs = 3\n"

/-- Sources that settle in every possible way bring a price within three seconds. -/
theorem lookup_of_isLoaded_short :
    ∃ configuration, Configuration.ofText shortText = .ok configuration ∧
      ∃ price,
        Aggregator.quoteAfter?
            { everyWay with timeout := configuration.exchange.timeoutSeconds * 1000 } 7
            ⟨"ADA", "USD"⟩ (List.replicate 3001 backwards).flatten =
          some (.ok price) := by
  have hloaded : Configuration.ofText shortText = .ok { exchange := { timeoutSeconds := 3 } } := by
    decide +kernel
  refine ⟨_, hloaded, ?_⟩
  obtain ⟨-, -, hends, -, hbrings⟩ := lookup_of_isLoaded (.ofText hloaded)
    { everyWay with timeout := 3 * 1000 } rfl 7 ⟨"ADA", "USD"⟩
  obtain ⟨readings, hreadings⟩ := hends (by decide +kernel) (List.replicate 3001 backwards)
    isCycle_of_mem_replicate_backwards (by rw [List.length_replicate]; decide +kernel)
  obtain ⟨price, hprice, -⟩ | ⟨-, hnone⟩ := hbrings _ readings hreadings
  · exact ⟨price, hprice⟩
  · have hsome :
        ({ everyWay with timeout := 3 * 1000 } : Aggregator).validPrices ⟨"ADA", "USD"⟩ ≠ [] := by
      decide +kernel
    exact absurd hnone hsome

/-- A configuration with the longest timeout that can be written. -/
def longestText : String := "[exchange]\ntimeout_secs = 9223372036854775807\n"

/-- Under the longest timeout no lookup ends, although the configuration is loaded and its sources
    are looked at again and again. -/
theorem no_readings_of_longest_timeout :
    ¬ ∀ (configuration : Configuration) (network : Http.Network) (aggregator : Aggregator),
      configuration.IsLoaded → configuration.exchange.aggregator network = .ok aggregator →
      ∀ (now : Nat) (pair : TickerPair) (cycles : List (List Turn)), now < clockEnd →
        (∀ turns ∈ cycles, Turn.IsCycle aggregator.sources.length turns) →
        aggregator.duration pair < cycles.length →
        ∃ readings, aggregator.readingsAfter? now pair cycles.flatten = some readings := by
  intro hall
  have hloaded : Configuration.ofText longestText =
      .ok { exchange := { timeoutSeconds := 9223372036854775807 } } := by decide +kernel
  obtain ⟨aggregator, haggregator⟩ : ∃ aggregator,
      ({ timeoutSeconds := 9223372036854775807 } : ExchangeSettings).aggregator .offline =
        .ok aggregator := ⟨_, rfl⟩
  obtain ⟨cycles, hcycles, hlong⟩ := aggregator.exists_cycles ⟨"ETH", "USD"⟩
  have hends :=
    hall _ .offline aggregator (.ofText hloaded) haggregator 10000000 ⟨"ETH", "USD"⟩ cycles
    (by decide +kernel) hcycles hlong
  have hdeadline := exists_readingsAfter?_iff.1 ⟨_, hends⟩
  rw [ExchangeSettings.timeout_of_aggregator haggregator] at hdeadline
  exact absurd hdeadline (by decide +kernel)

end Aggregator
end FeeOracle
