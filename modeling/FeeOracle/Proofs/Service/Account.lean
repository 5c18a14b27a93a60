import FeeOracle.CommandLine.Run
import FeeOracle.Proofs.Aggregator.Deadline
import FeeOracle.Proofs.Service.Price
import FeeOracle.Service.Lookup

/-!
# One lookup, told in several ways

What the service answers for a pair, what the command line prints about it and the quote all tell of
the same readings. The answer lists every source once, those with a price first, and the price in it
is the quote if there is one. It depends on the pair alone, so that tickers with the same normal
forms get the same answer.
-/

namespace FeeOracle

open CommandLine Consensus

variable {aggregator : Aggregator} {now : Nat} {turns : List Turn} {pair : TickerPair}
  {base quote : String} {baseWritten quoteWritten : List Char}

namespace Service

/-- What is answered for a pair tells of its readings: of each source once and with either a price
    or an error, of the quote if a source has a price, and of the missing price otherwise. -/
structure Tells (outcome : Outcome) (aggregator : Aggregator) (pair : TickerPair)
    (readings : Readings) (price : Double) : Prop where
  account : readings.Account aggregator.sources aggregator.timeout pair
  count : readings.successes.length + readings.failures.length = aggregator.sources.length
  asked : outcome.asked = [pair]
  reply : outcome.reply = .ofDatum (if readings.successes = [] then 503 else 200)
    (.table [("base", .text pair.base), ("quote", .text pair.quote), ("price", .double price),
      ("sources", .list
      (readings.successes.map (fun reading =>
          .table [("source", .text reading.source), ("price", .double reading.price)]) ++
        readings.failures.map fun failure =>
          .table [("source", .text failure.source), ("error", .text failure.error.message)]))])
  quoted : readings.successes ≠ [] → ∀ now turns result,
    aggregator.quoteAfter? now pair turns = some result → result = .ok price
  missing : readings.successes = [] → price = -1
  /-- Only a price that overflows is not written as a number. -/
  written :
    (Json.compact (.double price) = "null" ↔ MiddleOverflows (aggregator.validPrices pair)) ∧
    ∀ reading ∈ readings.successes, Json.compact (.double reading.price) ≠ "null"

/-- There is a quote if and only if a source has a price. -/
theorem successes_eq_nil_iff (aggregator : Aggregator) (pair : TickerPair) :
    (aggregator.readings pair).successes = [] ↔ aggregator.validPrices pair = [] := by
  rw [← aggregator.map_price_successes, List.map_eq_nil_iff]

/-- The price in an answer is written as a number unless the median overflows. -/
theorem compact_priceOrMissing_eq_null_iff (aggregator : Aggregator) (pair : TickerPair) :
    Json.compact (.double (priceOrMissing (aggregator.quote pair))) = "null" ↔
      MiddleOverflows (aggregator.validPrices pair) := by
  cases hquote : aggregator.quote pair with
  | error error =>
    obtain ⟨hnil, -⟩ := Aggregator.quote_eq_error_iff.1 hquote
    rw [hnil]
    have hmissing : Json.compact (.double missingPrice) ≠ "null" := by decide +kernel
    exact iff_of_false hmissing (by decide +kernel)
  | ok price =>
    obtain ⟨-, -, hbound, hover⟩ := Aggregator.quote_between hquote
    have hwritten : Json.compact (.double price) = "null" ↔ price.isFinite = false :=
      Double.write_interchange_eq_null_iff
    rw [priceOrMissing, hwritten]
    constructor
    · intro hinfinite
      by_contra hfits
      rw [(hbound.2 hfits).1] at hinfinite
      cases hinfinite
    · intro hoverflows
      rw [hover hoverflows]
      decide +kernel

/-- The answer from the readings of a pair tells of them. -/
theorem tells_priceOfReadings (aggregator : Aggregator) (pair : TickerPair) :
    Tells (priceOfReadings pair (aggregator.readings pair)) aggregator pair
      (aggregator.readings pair)
      (priceOrMissing (aggregator.quote pair)) where
  account := aggregator.account_readings pair
  count := by
    have hall := Answers.length_successes_add_failures (aggregator.answers pair) pair
    rw [Aggregator.answers, List.length_map] at hall
    exact hall
  asked := rfl
  reply := by
    cases hquote : aggregator.quote pair with
    | ok price =>
      have hsome : (aggregator.readings pair).successes ≠ [] := by
        rw [Ne, successes_eq_nil_iff]
        intro hnone
        rw [Aggregator.quote_eq_error_iff.2 ⟨hnone, rfl⟩] at hquote
        cases hquote
      have hread : (aggregator.readings pair).quote pair = .ok price := hquote
      rw [if_neg hsome, priceOfReadings, priceDatum, hread]
      rfl
    | error error =>
      have hnone :=
        (successes_eq_nil_iff aggregator pair).2 (Aggregator.quote_eq_error_iff.1 hquote).1
      have hread : (aggregator.readings pair).quote pair = .error error := hquote
      rw [if_pos hnone, priceOfReadings, priceDatum, hread]
      rfl
  quoted := by
    intro hsome now turns result hresult
    rw [← Aggregator.quote_eq_of_quoteAfter? hresult]
    cases hquote : aggregator.quote pair with
    | ok price => rfl
    | error error =>
      exact absurd
        ((successes_eq_nil_iff aggregator pair).2 (Aggregator.quote_eq_error_iff.1 hquote).1) hsome
  missing := by
    intro hnone
    rw [Aggregator.quote_eq_error_iff.2 ⟨(successes_eq_nil_iff aggregator pair).1 hnone, rfl⟩]
    rfl
  written := ⟨compact_priceOrMissing_eq_null_iff aggregator pair, fun _ hreading =>
    compact_double_ne_null (isUsablePrice_of_mem_successes hreading)⟩

/-- The answer for two tickers is the answer from the readings of their pair. -/
theorem priceOfParametersAfter?_of_pair (hbase : parameter? baseWritten = some base)
    (hquote : parameter? quoteWritten = some quote) (hpair : TickerPair.of base quote = .ok pair) :
    priceOfParametersAfter? aggregator now turns baseWritten quoteWritten =
      (aggregator.readingsAfter? now pair turns).map (priceOfReadings pair) := by
  simp only [priceOfParametersAfter?, hbase, hquote, priceAfter?, hpair]

theorem priceOfParametersAfter?_eq_some_iff (hbase : parameter? baseWritten = some base)
    (hquote : parameter? quoteWritten = some quote) (hpair : TickerPair.of base quote = .ok pair)
    {outcome : Outcome} :
    priceOfParametersAfter? aggregator now turns baseWritten quoteWritten = some outcome ↔
      (∃ readings, aggregator.readingsAfter? now pair turns = some readings) ∧
        priceOfReadings pair (aggregator.readings pair) = outcome := by
  rw [priceOfParametersAfter?_of_pair hbase hquote hpair, Option.map_eq_some_iff]
  constructor
  · rintro ⟨readings, hreadings, rfl⟩
    rw [(Aggregator.readings_eq_of_readingsAfter? hreadings).1]
    exact ⟨⟨readings, hreadings⟩, rfl⟩
  · rintro ⟨⟨readings, hreadings⟩, rfl⟩
    refine ⟨readings, hreadings, ?_⟩
    rw [(Aggregator.readings_eq_of_readingsAfter? hreadings).1]

/-- A blank ticker is refused, however much time goes by and whoever is looked at. -/
theorem priceOfParametersAfter?_of_blank (hbase : parameter? baseWritten = some base)
    (hquote : parameter? quoteWritten = some quote)
    (hblank : Text.IsBlankText base ∨ Text.IsBlankText quote) :
    priceOfParametersAfter? aggregator now turns baseWritten quoteWritten =
      some { reply := .ofError 400 "invalid ticker: ticker symbol must not be empty",
             asked := [] } := by
  cases hpair : TickerPair.of base quote with
  | ok pair =>
    obtain ⟨⟨hnotBase, hnotQuote⟩, -⟩ := TickerPair.of_eq_ok_iff.1 hpair
    exact absurd hblank (not_or.2 ⟨hnotBase, hnotQuote⟩)
  | error error =>
    cases error
    simp only [priceOfParametersAfter?, hbase, hquote, priceAfter?, hpair]
    rfl

/-- The answer to a request is there when the lookup has come to its end, and it is the one that is
    given without regard to time. -/
theorem answer_eq_of_priceOfParametersAfter? {settings : GasSettings}
    {gas : Except GasError GasTiers} {request : Request} {outcome : Outcome}
    (hroute : Route.ofPath? request.path = some (.price baseWritten quoteWritten))
    (hget : request.method = "GET")
    (h : priceOfParametersAfter? aggregator now turns baseWritten quoteWritten = some outcome) :
    answer aggregator settings gas request = outcome := by
  rw [answer_of_get hroute hget]
  cases hbase : parameter? baseWritten with
  | none => simpa [priceOfParameters, priceOfParametersAfter?, hbase] using h
  | some base =>
    cases hquote : parameter? quoteWritten with
    | none => simpa [priceOfParameters, priceOfParametersAfter?, hbase, hquote] using h
    | some quote =>
      cases hpair : TickerPair.of base quote with
      | error error =>
        simpa [priceOfParameters, priceOfParametersAfter?, hbase, hquote, price, priceAfter?, hpair]
          using h
      | ok pair =>
        obtain ⟨-, rfl⟩ := (priceOfParametersAfter?_eq_some_iff hbase hquote hpair).1 h
        simp only [priceOfParameters, hbase, hquote, price, hpair, pricePair]

end Service

/-- What the command line prints about a pair. -/
theorem CommandLine.runCommand_price (hpair : TickerPair.of base quote = .ok pair)
    (surroundings : Surroundings) (configuration : Configuration) (provider : GasProvider) :
    runCommand surroundings configuration aggregator provider (.price base quote) =
      if surroundings.now + aggregator.timeout < Aggregator.clockEnd then
        { written := sourceLines (aggregator.readings pair) ++
            [pair.text ++ " " ++ (priceOrMissing (aggregator.quote pair)).text]
          ending := .done }
      else { ending := .aborted } := by
  by_cases hdeadline : surroundings.now + aggregator.timeout < Aggregator.clockEnd <;>
    simp [runCommand, runPrice, hpair, Aggregator.readingsAt?, Aggregator.deadline?,
      hdeadline, quoteLine, Aggregator.quote]

/-- However the lookup goes, a request for the price of two tickers is answered for their normal
    forms. It is answered if and only if the lookup has a deadline, and then as soon as all sources
    have been looked at again and again. The answer tells of every source once and of the quote, and
    the command line prints the same. Tickers with the same normal forms get the same answer at any
    time, and a blank one is refused. -/
theorem Service.priceOfParametersAfter?_account (aggregator : Aggregator) (now : Nat)
    (hbase : parameter? baseWritten = some base) (hquote : parameter? quoteWritten = some quote) :
    (Text.IsBlankText base ∨ Text.IsBlankText quote → ∀ turns,
      priceOfParametersAfter? aggregator now turns baseWritten quoteWritten =
        some { reply := .ofError 400 "invalid ticker: ticker symbol must not be empty",
               asked := [] }) ∧
    (¬ Text.IsBlankText base → ¬ Text.IsBlankText quote →
      ((∃ turns outcome,
        priceOfParametersAfter? aggregator now turns baseWritten quoteWritten = some outcome) ↔
        now + aggregator.timeout < Aggregator.clockEnd) ∧
      (now + aggregator.timeout < Aggregator.clockEnd → ∀ cycles : List (List Turn),
        (∀ turns ∈ cycles, Turn.IsCycle aggregator.sources.length turns) →
        aggregator.duration { base := normalTicker base, quote := normalTicker quote } <
          cycles.length →
        ∃ outcome, priceOfParametersAfter? aggregator now cycles.flatten baseWritten quoteWritten =
          some outcome) ∧
      ∃ readings price,
        (∀ turns outcome,
          priceOfParametersAfter? aggregator now turns baseWritten quoteWritten = some outcome →
          Tells outcome aggregator { base := normalTicker base, quote := normalTicker quote }
            readings price ∧
          ∀ otherNow otherTurns otherBaseWritten otherQuoteWritten otherBase otherQuote
              otherOutcome,
            parameter? otherBaseWritten = some otherBase →
            parameter? otherQuoteWritten = some otherQuote →
            normalTicker otherBase = normalTicker base →
            normalTicker otherQuote = normalTicker quote →
            priceOfParametersAfter? aggregator otherNow otherTurns otherBaseWritten
              otherQuoteWritten = some otherOutcome →
            otherOutcome = outcome) ∧
        ∀ surroundings configuration provider,
          runCommand surroundings configuration aggregator provider (.price base quote) =
            if surroundings.now + aggregator.timeout < Aggregator.clockEnd then
              { written :=
                  readings.successes.map
                      (fun reading => sourceLine reading.source reading.price.text) ++
                    readings.failures.map
                      (fun failure => sourceLine failure.source failure.error.message) ++
                    [normalTicker base ++ "/" ++ normalTicker quote ++ " " ++ price.text]
                ending := .done }
            else { ending := .aborted }) ∧
    ∀ turns outcome settings gas request,
      Route.ofPath? request.path = some (.price baseWritten quoteWritten) →
      request.method = "GET" →
      priceOfParametersAfter? aggregator now turns baseWritten quoteWritten = some outcome →
      answer aggregator settings gas request = outcome := by
  refine ⟨fun hblank turns => priceOfParametersAfter?_of_blank hbase hquote hblank, ?_,
    fun _ _ _ _ _ hroute hget h => answer_eq_of_priceOfParametersAfter? hroute hget h⟩
  intro hnotBase hnotQuote
  have hpair := TickerPair.of_eq_ok_iff.2 ⟨⟨hnotBase, hnotQuote⟩, rfl⟩
  have hanswered (turns : List Turn) (outcome : Outcome) :
      priceOfParametersAfter? aggregator now turns baseWritten quoteWritten = some outcome ↔ _ :=
    priceOfParametersAfter?_eq_some_iff hbase hquote hpair
  refine ⟨?_, ?_, _, _, ?_, fun surroundings configuration provider =>
    runCommand_price hpair surroundings configuration provider⟩
  · simp only [hanswered, exists_and_left, exists_eq', and_true]
    exact Aggregator.exists_readingsAfter?_iff
  · intro hdeadline cycles hcycles hlong
    have hends := Aggregator.isSome_readingsAfter?_of_cycles hdeadline hcycles hlong
    exact ⟨_, (hanswered _ _).2 ⟨Option.isSome_iff_exists.1 hends, rfl⟩⟩
  · intro turns outcome h
    obtain ⟨-, rfl⟩ := (hanswered turns outcome).1 h
    refine ⟨tells_priceOfReadings aggregator _, ?_⟩
    intro otherNow otherTurns _ _ otherBase otherQuote otherOutcome hotherBase hotherQuote hsameBase
      hsameQuote hother
    have hotherPair : TickerPair.of otherBase otherQuote =
        .ok { base := normalTicker base, quote := normalTicker quote } := by
      refine TickerPair.of_eq_ok_iff.2 ⟨⟨?_, ?_⟩, by rw [hsameBase, hsameQuote]⟩
      · rwa [← isBlankText_normalTicker_iff, hsameBase, isBlankText_normalTicker_iff]
      · rwa [← isBlankText_normalTicker_iff, hsameQuote, isBlankText_normalTicker_iff]
    exact ((priceOfParametersAfter?_eq_some_iff hotherBase hotherQuote hotherPair).1 hother).2.symm

/-- Sources that settle in every possible way are told of in one answer, whichever way the tickers
    are written. -/
theorem Service.priceOfParametersAfter?_account_everyWay :
    parameter? "%20ada".toList = some " ada" ∧ parameter? "usd".toList = some "usd" ∧
      ∃ outcome readings price,
        priceOfParametersAfter? Aggregator.everyWay 1000
          (List.replicate 4 Aggregator.backwards).flatten "%20ada".toList
          "usd".toList = some outcome ∧
        outcome.reply.status = 200 ∧
        Tells outcome Aggregator.everyWay { base := "ADA", quote := "USD" } readings price := by
  have hbase : parameter? "%20ada".toList = some " ada" := by decide +kernel
  have hquote : parameter? "usd".toList = some "usd" := by decide +kernel
  have hnormal : normalTicker " ada" = "ADA" ∧ normalTicker "usd" = "USD" := by decide +kernel
  obtain ⟨-, hanswered, -⟩ := priceOfParametersAfter?_account Aggregator.everyWay 1000 hbase hquote
  obtain ⟨-, hends, readings, price, htells, -⟩ := hanswered (by decide +kernel) (by decide +kernel)
  rw [hnormal.1, hnormal.2] at hends htells
  obtain ⟨outcome, houtcome⟩ := hends (by decide +kernel) (List.replicate 4 Aggregator.backwards)
    Aggregator.isCycle_of_mem_replicate_backwards (by decide)
  have htells := (htells _ outcome houtcome).1
  have hsome : readings.successes ≠ [] := by
    rw [← List.length_pos_iff, ← htells.account.successes.length_eq]
    decide +kernel
  refine ⟨hbase, hquote, outcome, readings, price, houtcome, ?_, htells⟩
  rw [htells.reply, if_neg hsome]
  rfl

/-- With the longest timeout that can be configured there is no answer for any pair, although there
    are no sources to wait for, and the command line prints nothing where it should print the
    missing price. -/
theorem Service.no_price_of_longest_timeout :
    Configuration.ofText Aggregator.longestText =
      .ok { exchange := { timeoutSeconds := 9223372036854775807 } } ∧
      (∀ turns,
        priceOfParametersAfter? { sources := [], timeout := 9223372036854775807 * 1000 }
          10000000 turns "eth".toList "usd".toList = none) ∧
      (run { environment := fun _ => none, file? := fun _ => some Aggregator.longestText,
             network := .offline, canListen := fun _ => true, now := 10000000 }
           ["--config", "oracle.toml", "price", "eth", "usd"]).written =
        [] := by
  refine ⟨by decide +kernel, fun turns => ?_, by decide +kernel⟩
  have hpair : TickerPair.of "eth" "usd" = .ok { base := "ETH", quote := "USD" } := by
    decide +kernel
  rw [priceOfParametersAfter?_of_pair (by decide +kernel) (by decide +kernel) hpair,
    Option.map_eq_none_iff, Option.eq_none_iff_forall_ne_some]
  intro readings hreadings
  have hdeadline := Aggregator.exists_readingsAfter?_iff.1 ⟨turns, readings, hreadings⟩
  exact absurd hdeadline (by decide +kernel)

end FeeOracle
