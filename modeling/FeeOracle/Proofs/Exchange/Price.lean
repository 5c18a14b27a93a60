import FeeOracle.Proofs.Exchange.Failures

/-!
# What the price of an exchange is

An adapter answers with a price only if the reply tells of success and its document keeps to the
form of the exchange, reports no failure and has the price in its place. Every price that it answers
with is usable, so that checking it again changes nothing.
-/

namespace FeeOracle

open Json

/-- The price of a price field is its value, if that is usable. -/
theorem Exchange.PriceField.price_eq_ok_iff {exchange : String} {field : PriceField}
    {price : Double} :
    field.price exchange = .ok price ↔
      field.value exchange = .ok price ∧ price.isFinite = true ∧ Double.lt 0 price = true := by
  rw [PriceField.price, bind_eq_ok_iff]
  simp only [validatePrice_eq_ok_iff, isUsablePrice, Bool.and_eq_true]
  constructor
  · rintro ⟨value, hvalue, husable, rfl⟩
    exact ⟨hvalue, husable⟩
  · rintro ⟨hvalue, husable⟩
    exact ⟨price, hvalue, husable, rfl⟩

namespace Adapter

variable {network : Http.Network} {adapter : Adapter} {base quote : String} {reply : Http.Reply}
  {price : Double} {document : Written} {field : Exchange.PriceField}

/-- There is a price only in a reply with the status of success. -/
theorem exists_reply_of_price_eq_ok (h : adapter.price network base quote = .ok price) :
    ∃ reply, adapter.delivery network base quote = .arrived reply ∧
      (200 ≤ reply.status ∧ reply.status < 300) := by
  cases hdelivery : adapter.delivery network base quote with
  | lost detail =>
    rw [price_of_lost hdelivery] at h
    cases h
  | arrived reply =>
    refine ⟨reply, rfl, ?_⟩
    by_contra hstatus
    rw [price_of_status hdelivery hstatus] at h
    cases h

/-- The document of the reply is taken for a price field, and the price is what that stands for. -/
theorem exists_payload_of_price_eq_ok
    (hdelivery : adapter.delivery network base quote = .arrived reply)
    (hsuccess : 200 ≤ reply.status ∧ reply.status < 300)
    (h : adapter.price network base quote = .ok price) :
    ∃ document field, readDocument reply.text = .ok document ∧
      adapter.exchange.payload? (adapter.exchange.symbol base quote) reply.draw document =
        some (.price field) ∧
      field.price adapter.name = .ok price := by
  obtain ⟨hpayload, hcause⟩ := price_of_success hdelivery hsuccess
  cases hdecode :
      decode (adapter.exchange.payload? (adapter.exchange.symbol base quote) reply.draw)
        reply.text with
  | error cause =>
    rw [hcause cause hdecode] at h
    cases h
  | ok payload =>
    rw [hpayload payload hdecode] at h
    obtain ⟨document, hdocument, hread⟩ := decode_eq_ok_iff.1 hdecode
    cases payload with
    | notListed => cases h
    | faulty detail => cases h
    | price field => exact ⟨document, field, hdocument, hread, h⟩

/-- The price is the one that stands in the document of the reply. -/
theorem exists_document_of_price_eq_ok
    (hdelivery : adapter.delivery network base quote = .arrived reply)
    (hsuccess : 200 ≤ reply.status ∧ reply.status < 300)
    (h : adapter.price network base quote = .ok price) :
    ∃ document field, readDocument reply.text = .ok document ∧ adapter.exchange.HasForm document ∧
      ¬ adapter.exchange.ReportsFailure document ∧ adapter.exchange.PriceStands document field ∧
      field.price adapter.name = .ok price := by
  obtain ⟨document, field, hdocument, hread, hprice⟩ :=
    exists_payload_of_price_eq_ok hdelivery hsuccess h
  obtain ⟨hform, hlisted, hstands⟩ := Exchange.payload?_eq_price hread
  exact ⟨document, field, hdocument, hform, hlisted, hstands, hprice⟩

/-- A price that stands in the document of the reply is the price. -/
theorem price_eq_of_priceStands (hdelivery : adapter.delivery network base quote = .arrived reply)
    (hsuccess : 200 ≤ reply.status ∧ reply.status < 300)
    (hdocument : readDocument reply.text = .ok document) (hform : adapter.exchange.HasForm document)
    (hlisted : ¬ adapter.exchange.ReportsFailure document)
    (hone : adapter.exchange = .kraken → Exchange.HasOneResult document)
    (hstands : adapter.exchange.PriceStands document field) :
    adapter.price network base quote = field.price adapter.name := by
  have hread := Exchange.payload?_eq_price_of_hasOneResult
    (adapter.exchange.symbol base quote) reply.draw hone hform
    hlisted hstands
  rw [(price_of_success hdelivery hsuccess).1 _ (decode_eq_ok_iff.2 ⟨document, hdocument, hread⟩)]
  rfl

/-- Every price of an adapter is usable. -/
theorem isUsablePrice_of_price_eq_ok (h : adapter.price network base quote = .ok price) :
    isUsablePrice price = true := by
  obtain ⟨reply, hdelivery, hsuccess⟩ := exists_reply_of_price_eq_ok h
  obtain ⟨document, field, -, -, -, -, hprice⟩ :=
    exists_document_of_price_eq_ok hdelivery hsuccess h
  exact Bool.and_eq_true_iff.2 (Exchange.PriceField.price_eq_ok_iff.1 hprice).2

/-- So checking it again changes nothing. -/
theorem bind_validatePrice (network : Http.Network) (adapter : Adapter) (base quote : String)
    (name : String) :
    (adapter.price network base quote).bind (validatePrice name) =
      adapter.price network base quote := by
  cases h : adapter.price network base quote with
  | error error => rfl
  | ok price => exact validatePrice_eq_ok_iff.2 ⟨isUsablePrice_of_price_eq_ok h, rfl⟩

end Adapter

/-- What a source that is an adapter answers in time is what counts. -/
theorem Source.IsAdapter.answer_eq {source : Source} {adapter : Adapter} {timeout : Nat}
    {pair : TickerPair} (hadapter : source.IsAdapter adapter)
    (hinTime : (source.respond pair).inTime timeout = true) :
    source.answer timeout pair = (source.respond pair).outcome := by
  obtain ⟨network, houtcome⟩ := hadapter.outcome_eq pair
  rw [Source.answer_eq, if_pos hinTime, houtcome, Adapter.bind_validatePrice]

/-- An adapter answers with a price only if a reply with the status of success arrived whose
    document keeps to the form of the exchange and reports no failure, even if there is a price in
    it. The price is then the value that stands in the place of the price, and it is finite and
    above zero. Conversely, whatever price field stands in that place is what the adapter makes its
    answer of, if there is no more than one result. An aggregator takes the answer of an adapter
    that is in time as it is. -/
theorem Adapter.price_sound :
    (∀ (network : Http.Network) (adapter : Adapter) (base quote : String),
      (∀ price, adapter.price network base quote = .ok price →
        ∃ reply document field, adapter.delivery network base quote = .arrived reply ∧
          (200 ≤ reply.status ∧ reply.status < 300) ∧ readDocument reply.text = .ok document ∧
          adapter.exchange.HasForm document ∧ ¬ adapter.exchange.ReportsFailure document ∧
          adapter.exchange.PriceStands document field ∧ field.value adapter.name = .ok price ∧
          price.isFinite = true ∧ Double.lt 0 price = true) ∧
      ∀ reply document field, adapter.delivery network base quote = .arrived reply →
        (200 ≤ reply.status ∧ reply.status < 300) → readDocument reply.text = .ok document →
        adapter.exchange.HasForm document → ¬ adapter.exchange.ReportsFailure document →
        (adapter.exchange = .kraken → Exchange.HasOneResult document) →
        adapter.exchange.PriceStands document field →
        adapter.price network base quote = field.price adapter.name) ∧
    ∀ (source : Source) (adapter : Adapter) (timeout : Nat) (pair : TickerPair),
      source.IsAdapter adapter →
      (source.respond pair).inTime timeout = true →
      source.answer timeout pair = (source.respond pair).outcome := by
  refine ⟨fun network adapter base quote => ⟨?_, ?_⟩,
    fun source adapter timeout pair hadapter => hadapter.answer_eq⟩
  · intro price h
    obtain ⟨reply, hdelivery, hsuccess⟩ := exists_reply_of_price_eq_ok h
    obtain ⟨document, field, hdocument, hform, hlisted, hstands, hprice⟩ :=
      exists_document_of_price_eq_ok hdelivery hsuccess h
    exact ⟨reply, document, field, hdelivery, hsuccess, hdocument, hform, hlisted, hstands,
      Exchange.PriceField.price_eq_ok_iff.1 hprice⟩
  · intro reply document field hdelivery hsuccess hdocument hform hlisted hone hstands
    exact price_eq_of_priceStands hdelivery hsuccess hdocument hform hlisted hone hstands

/-- A table with the last closed trade of one pair. -/
def tradeText : String :=
  "\x7b\x22error\x22:[],\x22result\x22:\x7b" ++
    "\x22XETHZUSD\x22:\x7b\x22c\x22:[\x223150.5\x22,\x221\x22]\x7d\x7d\x7d"

/-- The document that is written there. -/
def tradeDocument : Written :=
  .ofEntries [("error", .list []),
    ("result", .ofEntries
      [("XETHZUSD", .ofEntries [("c", .list [.text (some "3150.5"), .text (some "1")])])])]

/-- Its price is the answer, and the aggregator takes it as it is. -/
theorem Adapter.price_sound_trade :
    (∃ document field,
      Exchange.kraken.PriceStands document field ∧ ¬ Exchange.kraken.ReportsFailure document ∧
        field.value "kraken" = .ok 3150.5) ∧
      (usual .kraken).price (fun _ => .arrived (.plain 200 tradeText)) "ETH" "USD" = .ok 3150.5 ∧
      ((usual .kraken).toSource fun _ => .arrived (.plain 200 tradeText)).answer 0 ⟨"ETH", "USD"⟩ =
        .ok 3150.5 := by
  obtain ⟨hone, hanswer⟩ := price_sound
  obtain ⟨hforward, hbackward⟩ :=
    hone (fun _ => .arrived (.plain 200 tradeText)) (usual .kraken) "ETH" "USD"
  have hdocument : readDocument (Http.Reply.plain 200 tradeText).text = .ok tradeDocument := by
    rw [show (Http.Reply.plain 200 tradeText).text = tradeText by decide +kernel]
    cbv
  have hread : Exchange.kraken.payload? "ETHUSD" 0 tradeDocument =
      some (.price (.text "3150.5")) := by decide +kernel
  obtain ⟨hform, hlisted, hstands⟩ := Exchange.payload?_eq_price hread
  have hsingle : Exchange.HasOneResult tradeDocument := by
    intro entries hfield
    simp only [tradeDocument, Written.hasField_ofEntries_iff, List.mem_cons, Prod.mk.injEq,
      Written.ofEntries_inj, List.not_mem_nil, or_false] at hfield
    obtain ⟨hname, -⟩ | ⟨-, rfl⟩ := hfield
    · exact absurd hname (by decide)
    · simp
  have hprice : (usual .kraken).price (fun _ => .arrived (.plain 200 tradeText)) "ETH" "USD" =
      .ok 3150.5 := by
    rw [hbackward _ _ _ (by decide +kernel) (by decide) hdocument hform hlisted
      (fun _ => hsingle) hstands]
    decide +kernel
  refine ⟨?_, hprice, ?_⟩
  · obtain ⟨_, document, field, -, -, -, -, hlisted, hstands, hvalue, -, -⟩ :=
      hforward 3150.5 hprice
    exact ⟨document, field, hstands, hlisted, hvalue⟩
  · rw [hanswer _ _ 0 ⟨"ETH", "USD"⟩ (isAdapter_toSource _ _) rfl, toSource]
    exact hprice

end FeeOracle
