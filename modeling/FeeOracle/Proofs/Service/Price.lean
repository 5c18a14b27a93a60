import FeeOracle.Proofs.Aggregator.Quotes
import FeeOracle.Proofs.Double.Text
import FeeOracle.Service.Reply

/-!
# The price that is answered

A request for a price is answered with status 200 only if there is a quote, and then the document
holds it. So what holds of quotes holds of these answers: the price is above zero, and it is a
number unless the median overflows.
-/

namespace FeeOracle

open Consensus

namespace Service

variable {aggregator : Aggregator}

/-- An answer for a pair has status 200 only if there is a quote, and then its document holds the
    quote. -/
theorem pricePair_of_status {pair : TickerPair}
    (hok : (pricePair aggregator pair).reply.status = 200) :
    ∃ price, aggregator.quote pair = .ok price ∧
      (pricePair aggregator pair).reply =
        .ofDatum 200 (.table
          [("base", .text pair.base), ("quote", .text pair.quote), ("price", .double price),
           ("sources", .list (sourceReports (aggregator.readings pair)))]) := by
  cases hquote : (aggregator.readings pair).quote pair with
  | error error => simp [pricePair, priceOfReadings, hquote, Reply.ofDatum] at hok
  | ok price =>
    exact ⟨price, hquote,
      by simp only [pricePair, priceOfReadings, hquote, priceDatum, priceOrMissing]⟩

/-- An answer for two tickers has status 200 only if they make a pair. -/
theorem price_of_status {base quote : String}
    (hok : (price aggregator base quote).reply.status = 200) :
    ∃ pair, price aggregator base quote = pricePair aggregator pair := by
  unfold price at hok ⊢
  split at hok
  next pair hpair => exact ⟨pair, rfl⟩
  next error herror => simp [Reply.ofError, Reply.ofDatum] at hok

/-- An answer for two parameters has status 200 only if both are texts. -/
theorem priceOfParameters_of_status {base quote : List Char}
    (hok : (priceOfParameters aggregator base quote).reply.status = 200) :
    ∃ baseText quoteText,
      priceOfParameters aggregator base quote = price aggregator baseText quoteText := by
  unfold priceOfParameters at hok ⊢
  split at hok
  next baseText quoteText hbase hquote => exact ⟨baseText, quoteText, rfl⟩
  next => simp [invalidParameter, Reply.ofText] at hok
  next => simp [invalidParameter, Reply.ofText] at hok

/-- A request for a price, body included, is answered for the parameters of its path. -/
theorem answer_of_get {settings : GasSettings} {gas : Except GasError GasTiers} {request : Request}
    {base quote : List Char} (hroute : Route.ofPath? request.path = some (.price base quote))
    (hget : request.method = "GET") :
    answer aggregator settings gas request = priceOfParameters aggregator base quote := by
  simp [answer, hroute, Request.reads, Request.isHead, hget]

/-- The prices that are reported one by one are usable. -/
theorem isUsablePrice_of_mem_successes {pair : TickerPair} {reading : Reading}
    (hreading : reading ∈ (aggregator.readings pair).successes) :
    isUsablePrice reading.price = true := by
  have hmem : reading.price ∈ (aggregator.readings pair).successes.map (·.price) :=
    List.mem_map_of_mem hreading
  rw [Aggregator.map_price_successes] at hmem
  exact Aggregator.isUsablePrice_of_mem_validPrices reading.price hmem

/-- A usable price is written as a number. -/
theorem compact_double_ne_null {price : Double} (husable : isUsablePrice price = true) :
    Json.compact (.double price) ≠ "null" := by
  obtain ⟨hfinite, _⟩ := Bool.and_eq_true_iff.1 husable
  intro hnull
  have hinfinite := Double.write_interchange_eq_null_iff.1 hnull
  rw [hfinite] at hinfinite
  cases hinfinite

end Service

/-- Every quote is above zero and not below all valid prices, however the lookup goes. It is finite
    and not above all of them unless the sum of the two valid prices in the middle overflows; then
    it is infinite. A request for a price that is answered with status 200 is answered with a quote,
    which is above zero and written as a number unless that sum overflows. -/
theorem Service.answer_price_between (aggregator : Aggregator) :
    (∀ now pair turns price, aggregator.quoteAfter? now pair turns = some (.ok price) →
      Double.lt 0 price = true ∧
      (∃ low ∈ aggregator.validPrices pair, Double.le low price = true) ∧
      ((price.isFinite = true ∧ ∃ high ∈ aggregator.validPrices pair, Double.le price high = true) ↔
        ¬ MiddleOverflows (aggregator.validPrices pair)) ∧
      (MiddleOverflows (aggregator.validPrices pair) → price = Double.infinity)) ∧
    ∀ settings gas request base quote, Route.ofPath? request.path = some (.price base quote) →
      request.method = "GET" → (answer aggregator settings gas request).reply.status = 200 →
      ∃ pair price, aggregator.quote pair = .ok price ∧
        (answer aggregator settings gas request).reply =
          .ofDatum 200 (.table
            [("base", .text pair.base), ("quote", .text pair.quote), ("price", .double price),
             ("sources", .list (sourceReports (aggregator.readings pair)))]) ∧
        Double.lt 0 price = true ∧
        (Json.compact (.double price) = "null" ↔ MiddleOverflows (aggregator.validPrices pair)) ∧
        ∀ reading ∈ (aggregator.readings pair).successes,
          Double.lt 0 reading.price = true ∧ Json.compact (.double reading.price) ≠ "null" := by
  refine ⟨fun now pair turns price h =>
    Aggregator.quote_between (Aggregator.quote_eq_of_quoteAfter? h), ?_⟩
  intro settings gas request base quote hroute hget hok
  rw [answer_of_get hroute hget] at hok ⊢
  obtain ⟨baseText, quoteText, htexts⟩ := priceOfParameters_of_status hok
  rw [htexts] at hok ⊢
  obtain ⟨pair, hpair⟩ := price_of_status hok
  rw [hpair] at hok ⊢
  obtain ⟨price, hquote, hreply⟩ := pricePair_of_status hok
  obtain ⟨hpositive, -, hbound, hover⟩ := Aggregator.quote_between hquote
  refine ⟨pair, price, hquote, hreply, hpositive, ?_, ?_⟩
  · change price.write .interchange = "null" ↔ _
    rw [Double.write_interchange_eq_null_iff]
    constructor
    · intro hinfinite
      by_contra hfits
      have hfinite := (hbound.2 hfits).1
      rw [hinfinite] at hfinite
      cases hfinite
    · intro h
      rw [hover h]
      decide +kernel
  · intro reading hreading
    have husable := isUsablePrice_of_mem_successes hreading
    exact ⟨(Bool.and_eq_true_iff.1 husable).2, compact_double_ne_null husable⟩

/-- Two prices that do not overflow: their mean is brought by a lookup, and it is answered. -/
theorem Service.answer_price_between_two :
    (∃ price, (Aggregator.ofPrices [10, 20]).quoteAfter? 0 ⟨"ADA", "USD"⟩ [.look 1, .look 0] =
      some (.ok price) ∧
        price.isFinite = true ∧ Double.lt 0 price = true) ∧
      (answer (Aggregator.ofPrices [10, 20]) {} (.error (.http "refused"))
        ⟨"GET", "/price/ada/usd"⟩).reply.status = 200 ∧
      ∃ pair price,
        (Aggregator.ofPrices [10, 20]).quote pair = .ok price ∧ Double.lt 0 price = true ∧
        Json.compact (.double price) ≠ "null" := by
  have hfits : ∀ pair, ¬ MiddleOverflows ((Aggregator.ofPrices [10, 20]).validPrices pair) := by
    intro pair
    rw [Aggregator.validPrices_ofPrices (by decide +kernel)]
    decide +kernel
  have hquote : (Aggregator.ofPrices [10, 20]).quoteAfter? 0 ⟨"ADA", "USD"⟩ [.look 1, .look 0] =
      some (.ok 15) := by
    decide +kernel
  have hroute : Route.ofPath? (Request.path ⟨"GET", "/price/ada/usd"⟩) =
      some (.price "ada".toList "usd".toList) := by decide +kernel
  have hok : (answer (Aggregator.ofPrices [10, 20]) {} (.error (.http "refused"))
      ⟨"GET", "/price/ada/usd"⟩).reply.status = 200 := by decide +kernel
  obtain ⟨hbrought, hanswered⟩ := Service.answer_price_between (Aggregator.ofPrices [10, 20])
  obtain ⟨hpositive, -, hbound, -⟩ := hbrought 0 _ _ 15 hquote
  obtain ⟨pair, price, hprice, -, hanswerPositive, hnull, -⟩ := hanswered {} _ _ _ _ hroute rfl hok
  exact ⟨⟨15, hquote, (hbound.2 (hfits _)).1, hpositive⟩, hok, pair, price, hprice, hanswerPositive,
    fun h => hfits pair (hnull.1 h)⟩

/-- The sum of two prices may overflow although both are finite: then the quote is infinite, and the
    answer has no price. -/
theorem Service.answer_price_null_of_two_largest :
    ¬ (∀ (aggregator : Aggregator) (now : Nat) (pair : TickerPair) (turns : List Turn)
        (price : Double),
        aggregator.quoteAfter? now pair turns = some (.ok price) →
        price.isFinite = true ∧ Double.lt 0 price = true ∧
          (∃ low ∈ aggregator.validPrices pair, Double.le low price = true) ∧
          ∃ high ∈ aggregator.validPrices pair, Double.le price high = true) ∧
      (answer (Aggregator.ofPrices [1.7976931348623157e308, 1.7976931348623157e308]) {}
        (.error (.http "refused"))
        ⟨"GET", "/price/ada/usd"⟩).reply = {
          status := 200
          contentType := some "application/json"
          body :=
            "\x7b\x22base\x22:\x22ADA\x22,\x22quote\x22:\x22USD\x22,\x22price\x22:null," ++
            "\x22sources\x22:[" ++
            "\x7b\x22source\x22:\x22venue\x22,\x22price\x22:1.7976931348623157e+308\x7d," ++
            "\x7b\x22source\x22:\x22venue\x22,\x22price\x22:1.7976931348623157e+308\x7d]\x7d"
        } := by
  constructor
  · intro hall
    have hquote :
        (Aggregator.ofPrices [1.7976931348623157e308, 1.7976931348623157e308]).quoteAfter? 0
        ⟨"ADA", "USD"⟩ [.look 0, .look 1] = some (.ok Double.infinity) := by
      decide +kernel
    have hfinite := (hall _ _ _ _ _ hquote).1
    have hinfinite : Double.infinity.isFinite = false := by decide +kernel
    rw [hinfinite] at hfinite
    cases hfinite
  · decide +kernel

end FeeOracle
