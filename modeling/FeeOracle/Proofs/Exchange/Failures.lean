import FeeOracle.Exchange.Adapter
import FeeOracle.Proofs.Aggregator.Accounting
import FeeOracle.Proofs.Exchange.Form
import FeeOracle.Proofs.Text.Utf8
import FeeOracle.Proofs.Ticker

/-!
# How failures of exchanges are told

All adapters tell a failure by the same rules, and the only exception is an exchange that reports in
the body of a reply with any status that a pair is not listed. Every error names the exchange that
was asked, so in readings from adapters each failure is told under the name of its source.
-/

namespace FeeOracle

open Json

/-- The text writes a list that begins with the text that reports an error. -/
def Exchange.WritesError (text : String) : Prop :=
  ∃ rest, parse? text = some (.list (.text "error" :: rest))

/-- The source asks an exchange through an adapter, over whatever network and however long it
    takes. -/
structure Source.IsAdapter (source : Source) (adapter : Adapter) : Prop where
  name_eq : source.name = adapter.name
  outcome_eq :
    ∀ pair, ∃ network, (source.respond pair).outcome = adapter.price network pair.base pair.quote

theorem validatePrice_eq_error_iff {exchange : String} {price : Double} {error : SourceError} :
    validatePrice exchange price = .error error ↔
      isUsablePrice price = false ∧ .invalidPrice exchange price = error := by
  unfold validatePrice
  split <;> simp_all

/-- A price field is rejected for what it says or for the price that it stands for. -/
theorem Exchange.PriceField.price_eq_error {exchange : String} {field : PriceField}
    {error : SourceError} (h : field.price exchange = .error error) :
    (∃ detail, error = .malformed exchange detail) ∨ ∃ price,
      error = .invalidPrice exchange price := by
  obtain hvalue | ⟨value, -, hprice⟩ := bind_eq_error_iff.1 h
  · left
    cases field with
    | number price => cases hvalue
    | text written =>
      simp only [value] at hvalue
      split at hvalue
      next => cases hvalue
      next => exact ⟨_, (Except.error.inj hvalue).symm⟩
  · exact .inr ⟨value, (validatePrice_eq_error_iff.1 hprice).2.symm⟩

namespace Adapter

variable {network : Http.Network} {adapter : Adapter} {base quote : String} {reply : Http.Reply}
  {error : SourceError}

/-- What comes of asking for the price of a pair. What is not an address is never asked. -/
def delivery (network : Http.Network) (adapter : Adapter) (base quote : String) : Http.Delivery :=
  match adapter.request? base quote with
  | some request => network request
  | none => .lost "builder error"

/-- The price is found in what comes of asking. -/
theorem price_eq (network : Http.Network) (adapter : Adapter) (base quote : String) :
    adapter.price network base quote = priceOf adapter.exchange base quote
      ((adapter.delivery network base quote).decode
        (adapter.exchange.payload? (adapter.exchange.symbol base quote))) := by
  unfold price delivery Http.fetch
  cases adapter.request? base quote <;> rfl

/-- The body of a reply reports an error if and only if the exchange is the one that does so and the
    body writes one. -/
theorem bodyReportsError_iff {exchange : Exchange} {body : String} :
    bodyReportsError exchange body = true ↔ exchange = .bitfinex ∧ Exchange.WritesError body := by
  have hdecoded : bodyReportsError exchange body = true ↔ exchange = .bitfinex ∧
      ∃ items, decode Exchange.Payload.data? body = .ok items ∧
        Exchange.Payload.reportsError items = true := by
    rw [bodyReportsError, Bool.and_eq_true, decide_eq_true_eq]
    cases decode Exchange.Payload.data? body <;> simp
  rw [hdecoded]
  refine and_congr_right fun _ => ?_
  simp only [decode_eq_ok_iff, Exchange.data?_eq_some_iff_datum?, Exchange.reportsError_iff,
    Exchange.WritesError, parse?, Option.bind_eq_bind, Option.bind_eq_some_iff]
  constructor
  · rintro ⟨_, ⟨document, hdocument, hdata⟩, rest, rfl⟩
    exact ⟨rest, document, by rw [hdocument]; rfl, hdata⟩
  · rintro ⟨rest, document, hdocument, hdata⟩
    refine ⟨_, ⟨document, ?_, hdata⟩, rest, rfl⟩
    cases hread : readDocument body with
    | error position => simp [hread, Except.toOption] at hdocument
    | ok read => simpa [hread, Except.toOption] using hdocument

/-- A reply with the status of success is decoded. -/
theorem price_of_success (h : adapter.delivery network base quote = .arrived reply)
    (hsuccess : 200 ≤ reply.status ∧ reply.status < 300) :
    (∀ payload,
      decode (adapter.exchange.payload? (adapter.exchange.symbol base quote) reply.draw)
        reply.text = .ok payload →
      adapter.price network base quote = priceOf adapter.exchange base quote (.ok payload)) ∧
    ∀ cause,
      decode (adapter.exchange.payload? (adapter.exchange.symbol base quote) reply.draw)
        reply.text = .error cause →
      adapter.price network base quote = .error (.malformed adapter.name cause.message) := by
  have hsuccess : reply.isSuccess = true := by simpa [Http.Reply.isSuccess] using hsuccess
  rw [price_eq, h, Http.Delivery.decode, Http.Reply.decode, if_pos hsuccess]
  constructor
  · intro payload hpayload
    rw [hpayload]
  · intro cause hcause
    rw [hcause]
    rfl

/-- The document in a reply is decoded if and only if it has the form of the exchange. -/
theorem exists_decode_iff {exchange : Exchange} {text : String} (symbol : String) (draw : Nat) :
    (∃ payload, decode (exchange.payload? symbol draw) text = .ok payload) ↔
      ∃ document, readDocument text = .ok document ∧ exchange.HasForm document := by
  simp only [decode_eq_ok_iff, ← Exchange.isSome_payload?_iff symbol draw, Option.isSome_iff_exists]
  rw [exists_comm]
  simp only [exists_and_left]

/-- A reply with any other status is not. -/
theorem price_of_status (h : adapter.delivery network base quote = .arrived reply)
    (hstatus : ¬ (200 ≤ reply.status ∧ reply.status < 300)) :
    adapter.price network base quote =
      .error (errorOf adapter.exchange base quote (.status reply.status reply.text)) := by
  have hfailed : ¬ reply.isSuccess = true := by simpa [Http.Reply.isSuccess] using hstatus
  rw [price_eq, h, Http.Delivery.decode, Http.Reply.decode, if_neg hfailed, priceOf]

/-- A document says what is wrong, or its price is. -/
theorem priceOf_eq_error {exchange : Exchange} {payload : Exchange.Payload}
    (h : priceOf exchange base quote (.ok payload) = .error error) :
    error = .unknownTicker exchange.name base quote ∨
    (∃ detail, error = .malformed exchange.name detail) ∨
      ∃ price, error = .invalidPrice exchange.name price := by
  cases payload with
  | price field => exact .inr (Exchange.PriceField.price_eq_error h)
  | notListed => exact .inl (Except.error.inj h).symm
  | faulty detail => exact .inr (.inl ⟨detail, (Except.error.inj h).symm⟩)

theorem price_of_lost {detail : String} (h : adapter.delivery network base quote = .lost detail) :
    adapter.price network base quote = .error (.http adapter.name detail) := by
  rw [price_eq, h]
  rfl

/-- A pair that a status or a body denies is not listed. -/
theorem price_of_notListed (h : adapter.delivery network base quote = .arrived reply)
    (hstatus : ¬ (200 ≤ reply.status ∧ reply.status < 300))
    (hdenied : (reply.status = 400 ∨ reply.status = 404) ∨
      adapter.exchange = .bitfinex ∧ Exchange.WritesError reply.text) :
    adapter.price network base quote = .error (.unknownTicker adapter.name base quote) := by
  rw [price_of_status h hstatus, errorOf]
  split
  next => rfl
  next hreports =>
    have hclient := hdenied.resolve_right (mt bodyReportsError_iff.2 hreports)
    rw [SourceError.notListedOnClientError, if_pos hclient]
    rfl

/-- Any other status is told as it is. -/
theorem price_of_otherStatus (h : adapter.delivery network base quote = .arrived reply)
    (hstatus : ¬ (200 ≤ reply.status ∧ reply.status < 300))
    (hclient : ¬ (reply.status = 400 ∨ reply.status = 404))
    (hreports : ¬ (adapter.exchange = .bitfinex ∧ Exchange.WritesError reply.text)) :
    adapter.price network base quote = .error (.status adapter.name reply.status reply.text) := by
  rw [price_of_status h hstatus, errorOf, if_neg (mt bodyReportsError_iff.1 hreports),
    SourceError.notListedOnClientError, if_neg hclient]
  rfl

/-- A reply with the status of success gives rise to no other errors than these. -/
theorem price_eq_error_of_success (h : adapter.delivery network base quote = .arrived reply)
    (hsuccess : 200 ≤ reply.status ∧ reply.status < 300)
    (herror : adapter.price network base quote = .error error) :
    error = .unknownTicker adapter.name base quote ∨
    (∃ detail, error = .malformed adapter.name detail) ∨
      ∃ price, error = .invalidPrice adapter.name price := by
  obtain ⟨hpayload, hcause⟩ := price_of_success h hsuccess
  cases hdecode :
      decode (adapter.exchange.payload? (adapter.exchange.symbol base quote) reply.draw)
        reply.text with
  | ok payload =>
    rw [hpayload payload hdecode] at herror
    exact priceOf_eq_error herror
  | error cause =>
    rw [hcause cause hdecode] at herror
    exact .inr (.inl ⟨_, (Except.error.inj herror).symm⟩)

/-- Every error is about the exchange that was asked, and none is about time. -/
theorem exchange_of_price_eq_error (herror : adapter.price network base quote = .error error) :
    error.exchange = adapter.name ∧ error.isTimeout = false := by
  cases h : adapter.delivery network base quote with
  | lost detail =>
    rw [price_of_lost h] at herror
    obtain rfl := Except.error.inj herror
    exact ⟨rfl, rfl⟩
  | arrived reply =>
    by_cases hstatus : 200 ≤ reply.status ∧ reply.status < 300
    · obtain rfl | ⟨detail, rfl⟩ | ⟨price, rfl⟩ := price_eq_error_of_success h hstatus herror
      · exact ⟨rfl, rfl⟩
      · exact ⟨rfl, rfl⟩
      · exact ⟨rfl, rfl⟩
    · by_cases hdenied : (reply.status = 400 ∨ reply.status = 404) ∨
          adapter.exchange = .bitfinex ∧ Exchange.WritesError reply.text
      · rw [price_of_notListed h hstatus hdenied] at herror
        obtain rfl := Except.error.inj herror
        exact ⟨rfl, rfl⟩
      · obtain ⟨hclient, hreports⟩ := not_or.1 hdenied
        rw [price_of_otherStatus h hstatus hclient hreports] at herror
        obtain rfl := Except.error.inj herror
        exact ⟨rfl, rfl⟩

end Adapter

/-- A source that is an adapter fails with an error about itself, be it late or not. -/
theorem Source.IsAdapter.exchange_of_answer {source : Source} {adapter : Adapter} {timeout : Nat}
    {pair : TickerPair} {error : SourceError} (hadapter : source.IsAdapter adapter)
    (h : source.answer timeout pair = .error error) : error.exchange = source.name := by
  have hsettles := source.settles_answer timeout pair
  rw [h] at hsettles
  cases hsettles with
  | unusable => rfl
  | late => rfl
  | failed _ _ houtcome =>
    obtain ⟨network, hprice⟩ := hadapter.outcome_eq pair
    rw [hadapter.name_eq]
    exact (Adapter.exchange_of_price_eq_error (hprice.symm.trans houtcome)).1

/-- An adapter is asked as a source. -/
theorem Adapter.isAdapter_toSource (network : Http.Network) (adapter : Adapter) :
    (adapter.toSource network).IsAdapter adapter where
  name_eq := rfl
  outcome_eq pair := ⟨network, by rw [toSource]⟩

/-- All adapters tell failures in the same way, whatever comes of the request. A request that comes
    to nothing is told as such. A status of 400 or 404 tells that the pair is not listed, and so
    does a body that reports an error at the one exchange that reports errors in bodies. Any other
    status but that of success is told with the body. With the status of success, what is told is
    that the pair is not listed, that the document makes no sense, as it is if it does not have the
    form of the exchange, or that its price is not usable. Every error is about the exchange that
    was asked and none is about time, so that in readings from adapters each failure is about its
    source. -/
theorem Adapter.price_classified :
    (∀ (network : Http.Network) (adapter : Adapter) (base quote : String),
      (∀ detail, adapter.delivery network base quote = .lost detail →
        adapter.price network base quote = .error (.http adapter.name detail)) ∧
      (∀ reply, adapter.delivery network base quote = .arrived reply →
        (reply.status = 400 ∨ reply.status = 404 →
          adapter.price network base quote = .error (.unknownTicker adapter.name base quote)) ∧
        (¬ (200 ≤ reply.status ∧ reply.status < 300) → ¬ (reply.status = 400 ∨ reply.status = 404) →
          (adapter.exchange = .bitfinex ∧ Exchange.WritesError reply.text →
            adapter.price network base quote = .error (.unknownTicker adapter.name base quote)) ∧
          (¬ (adapter.exchange = .bitfinex ∧ Exchange.WritesError reply.text) →
            adapter.price network base quote =
              .error (.status adapter.name reply.status reply.text))) ∧
        (200 ≤ reply.status ∧ reply.status < 300 →
          (∀ error, adapter.price network base quote = .error error →
            error = .unknownTicker adapter.name base quote ∨
            (∃ detail, error = .malformed adapter.name detail) ∨
              ∃ price, error = .invalidPrice adapter.name price) ∧
          ((∀ document,
            readDocument reply.text = .ok document → ¬ adapter.exchange.HasForm document) →
            ∃ detail,
              adapter.price network base quote = .error (.malformed adapter.name detail)))) ∧
      ∀ error, adapter.price network base quote = .error error →
        error.exchange = adapter.name ∧ error.isTimeout = false) ∧
    ∀ (aggregator : Aggregator) (now : Nat) (pair : TickerPair) (turns : List Turn)
      (readings : Readings),
      (∀ source ∈ aggregator.sources, ∃ adapter, source.IsAdapter adapter) →
      aggregator.readingsAfter? now pair turns = some readings →
      ∀ failure ∈ readings.failures, failure.error.exchange = failure.source := by
  constructor
  · intro network adapter base quote
    refine ⟨fun detail => price_of_lost, ?_, fun error => exchange_of_price_eq_error⟩
    intro reply h
    refine ⟨?_, ?_, ?_⟩
    · intro hclient
      exact price_of_notListed h (by omega) (.inl hclient)
    · intro hstatus hclient
      exact ⟨fun hreports => price_of_notListed h hstatus (.inr hreports),
        fun hreports => price_of_otherStatus h hstatus hclient hreports⟩
    · intro hsuccess
      refine ⟨fun error => price_eq_error_of_success h hsuccess, ?_⟩
      intro hform
      cases hdecode :
      decode (adapter.exchange.payload? (adapter.exchange.symbol base quote) reply.draw)
        reply.text with
      | ok payload =>
        obtain ⟨document, hdocument, hhas⟩ := (exists_decode_iff _ _).1 ⟨payload, hdecode⟩
        exact absurd hhas (hform document hdocument)
      | error cause => exact ⟨_, (price_of_success h hsuccess).2 cause hdecode⟩
  · intro aggregator now pair turns readings hadapters h failure hfailure
    obtain ⟨rfl, -⟩ := Aggregator.readings_eq_of_readingsAfter? h
    rw [Aggregator.failures_readings] at hfailure
    obtain ⟨source, hsource, hfailed⟩ := List.mem_filterMap.1 hfailure
    obtain ⟨adapter, hadapter⟩ := hadapters source hsource
    cases hanswer : source.answer aggregator.timeout pair with
    | ok price => simp [hanswer] at hfailed
    | error error =>
      obtain rfl : { source := source.name, error } = failure := by simpa [hanswer] using hfailed
      exact hadapter.exchange_of_answer hanswer

/-- A reply that says nothing about its encoding. -/
def Http.Reply.plain (status : Nat) (text : String) (draw : Nat := 0) : Reply :=
  { status, contentType := none, body := Text.encodeUtf8 text, draw }

/-- A text that starts with a character of ASCII arrives as it was sent. -/
theorem Http.Reply.text_plain {text : String} (status draw : Nat)
    (h : ∃ c ∈ text.toList.head?, c.toNat < 0x80) : (plain status text draw).text = text := by
  obtain ⟨c, hhead, hc⟩ := h
  obtain ⟨rest, htext⟩ : ∃ rest, text.toList = c :: rest := ⟨_, List.eq_cons_of_mem_head? hhead⟩
  have hmark : Text.markedCharset? (Text.encodeUtf8 text) = none := by
    rw [Text.encodeUtf8_eq, htext, Text.utf8Bytes_cons, Text.utf8EncodeChar_of_ascii hc,
      List.singleton_append]
    have hfirst : (UInt8.ofNat c.toNat).toNat < 0x80 := by rwa [Text.toNat_ofNat_of_lt (by omega)]
    unfold Text.markedCharset?
    -- No mark starts with such a character.
    split
    next hbytes => rw [(List.cons.inj hbytes).1] at hfirst; exact absurd hfirst (by decide)
    next hbytes => rw [(List.cons.inj hbytes).1] at hfirst; exact absurd hfirst (by decide)
    next hbytes => rw [(List.cons.inj hbytes).1] at hfirst; exact absurd hfirst (by decide)
    next => rfl
  have hcharset : (plain status text draw).charset = .utf8 := rfl
  rw [Reply.text, hcharset]
  simp only [plain, Option.getD_none, Text.Charset.decode, hmark, Text.Charset.decodeUnmarked]
  exact Text.decodeUtf8_encodeUtf8 text

/-- An exchange at its usual address, asked without a key. -/
def Adapter.usual (exchange : Exchange) : Adapter :=
  { exchange, address := exchange.defaultUrl, apiKey := none }

/-- One source that fails at once, and one that does not answer in time. -/
def Aggregator.failing : Aggregator where
  sources := [
    (Adapter.usual .kraken).toSource fun _ => .arrived (.plain 404 ""),
    { name := "gemini"
      respond := fun pair =>
        { delay := none, outcome := (Adapter.usual .gemini).price .offline pair.base pair.quote } }]
  timeout := 5

/-- Every kind of failure, and both ways in which a source fails. -/
theorem Adapter.price_classified_usual :
    (usual .coinbase).price .offline "BTC" "USD" =
        .error (.http "coinbase"
          "error sending request for url (https://api.coinbase.com/v2/prices/BTC-USD/spot)") ∧
      (usual .kraken).price (fun _ => .arrived (.plain 404 "gone")) "BTC" "USD" =
        .error (.unknownTicker "kraken" "BTC" "USD") ∧
      (usual .bitfinex).price (fun _ => .arrived (.plain 500 "[\x22error\x22, 10020]"))
          "BTC" "USD" =
        .error (.unknownTicker "bitfinex" "BTC" "USD") ∧
      (usual .gemini).price (fun _ => .arrived (.plain 500 "[\x22error\x22, 10020]")) "BTC" "USD" =
        .error (.status "gemini" 500 "[\x22error\x22, 10020]") ∧
      (∃ detail, (usual .binance).price (fun _ => .arrived (.plain 200 "[]")) "BTC" "USD" =
        .error (.malformed "binance" detail)) ∧
      ∃ readings, Aggregator.failing.readingsAfter? 0 ⟨"BTC", "USD"⟩ [.look 0, .wait 5, .look 1] =
        some readings ∧
        readings.failures.map (·.source) = ["kraken", "gemini"] ∧
        ∀ failure ∈ readings.failures, failure.error.exchange = failure.source := by
  obtain ⟨hone, hall⟩ := price_classified
  have hreply (exchange : Exchange) (reply : Http.Reply) :
      (usual exchange).delivery (fun _ => .arrived reply) "BTC" "USD" = .arrived reply := by
    have hrequest : ((usual exchange).request? "BTC" "USD").isSome = true := by
      cases exchange <;> decide +kernel
    obtain ⟨request, hrequest⟩ := Option.isSome_iff_exists.1 hrequest
    rw [delivery, hrequest]
  refine ⟨?_, ?_, ?_, ?_, ?_, ?_⟩
  · exact (hone .offline (usual .coinbase) "BTC" "USD").1 _ (by decide +kernel)
  · obtain ⟨-, harrived, -⟩ := hone _ (usual .kraken) "BTC" "USD"
    exact (harrived _ (hreply _ (.plain 404 "gone"))).1 (.inr rfl)
  · obtain ⟨-, harrived, -⟩ := hone _ (usual .bitfinex) "BTC" "USD"
    obtain ⟨-, hother, -⟩ := harrived _ (hreply _ (.plain 500 "[\x22error\x22, 10020]"))
    exact (hother (by decide) (by decide)).1 (bodyReportsError_iff.1 (by decide +kernel))
  · obtain ⟨-, harrived, -⟩ := hone _ (usual .gemini) "BTC" "USD"
    obtain ⟨-, hother, -⟩ := harrived _ (hreply _ (.plain 500 "[\x22error\x22, 10020]"))
    rw [(hother (by decide) (by decide)).2 (fun h => by cases h.1)]
    decide +kernel
  · obtain ⟨-, harrived, -⟩ := hone _ (usual .binance) "BTC" "USD"
    obtain ⟨-, -, hsuccess⟩ := harrived _ (hreply _ (.plain 200 "[]"))
    refine (hsuccess (by decide)).2 ?_
    intro document hdocument hform
    obtain ⟨payload, hpayload⟩ := (exists_decode_iff "BTCUSDT" 0).2 ⟨document, hdocument, hform⟩
    have hnone :
        (decode (Exchange.binance.payload? "BTCUSDT" 0) (Http.Reply.plain 200 "[]").text).toOption =
        none := by
      decide +kernel
    rw [show decode (Exchange.binance.payload? "BTCUSDT" 0) _ = _ from hpayload] at hnone
    cases hnone
  · have hsome :
        (Aggregator.failing.readingsAfter? 0 ⟨"BTC", "USD"⟩ [.look 0, .wait 5, .look 1]).map
          (fun readings => readings.failures.map (·.source)) = some ["kraken", "gemini"] := by
      decide +kernel
    obtain ⟨readings, hreadings, hsources⟩ := Option.map_eq_some_iff.1 hsome
    refine ⟨readings, hreadings, hsources, hall Aggregator.failing _ _ _ _ ?_ hreadings⟩
    intro source hsource
    rcases List.mem_cons.1 hsource with rfl | hsource
    · exact ⟨_, isAdapter_toSource _ _⟩
    · obtain rfl := List.mem_singleton.1 hsource
      exact ⟨usual .gemini, rfl, fun pair => ⟨.offline, by dsimp only⟩⟩

end FeeOracle
