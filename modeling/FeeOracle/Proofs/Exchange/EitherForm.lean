import FeeOracle.Proofs.Exchange.Price
import FeeOracle.Proofs.Exchange.WrittenPrice
import FeeOracle.Proofs.Json.Replaced

/-!
# Prices in either form

A whole number and the text of its digits are the same price. All exchanges but one read their price
field in either form, so that replacing the number by the text makes no difference to the answer.
The one that has its last price at a place of a list finds no price in a text.
-/

namespace FeeOracle

open Json

namespace Exchange

/-- The steps to the price in the documents of an exchange. Whichever result counts, its price is
    reached by them. -/
def pricePath : Exchange → List Step
  | binance => [.field ["price"] "price"]
  | bitfinex => [.item Payload.lastPriceIndex]
  | coinbase => [.field ["data"] "data", .field ["amount"] "amount"]
  | cryptocom =>
    [.field ["code", "result"] "result", .field ["data"] "data", .item 0, .field ["a"] "a"]
  | gemini => [.field ["last"] "last"]
  | kraken => [.field ["error", "result"] "result", .entry, .field ["c"] "c", .item 0]

/-- Wherever the price stands, these steps lead to it. -/
theorem PriceStands.leadsTo {exchange : Exchange} {document : Written} {field : PriceField}
    (h : exchange.PriceStands document field) :
    ∃ value,
      PriceField.ofWritten? value = some field ∧ LeadsTo exchange.pricePath document value := by
  have hunder {name : String} {document : Written} (h : PriceUnder name document field) :
      ∃ value,
        PriceField.ofWritten? value = some field ∧ LeadsTo [.field [name] name] document value := by
    obtain ⟨-, value, hfield, hread⟩ := h
    exact ⟨value, hread, (LeadsTo.here value).field hfield⟩
  cases exchange with
  | binance => exact hunder h
  | gemini => exact hunder h
  | bitfinex =>
    obtain ⟨items, item, last, rfl, hplace, hdouble, rfl⟩ := h
    refine ⟨item, ?_, (LeadsTo.here item).item hplace⟩
    cases item with
    | number numeral => exact congrArg (Option.map PriceField.number) hdouble
    | _ => cases hdouble
  | coinbase =>
    obtain ⟨data, hdata, hprice⟩ := h
    obtain ⟨value, hread, hvalue⟩ := hunder hprice
    exact ⟨value, hread, hvalue.field hdata⟩
  | cryptocom =>
    obtain ⟨result, trade, trades, hresult, htrades, hprice⟩ := h
    obtain ⟨value, hread, hvalue⟩ := hunder hprice
    exact ⟨value, hread, ((hvalue.item List.getElem?_cons_zero).field htrades).field hresult⟩
  | kraken =>
    obtain ⟨before, name, entry, after, prices, hresult, -, -, items, hitems, hprices⟩ := h
    obtain ⟨value, rest, rfl, hread, -⟩ := List.map_eq_cons_iff.1 hprices
    have hfirst := ((LeadsTo.here value).item List.getElem?_cons_zero).field hitems
    exact ⟨value, hread,
      (hfirst.entry (List.mem_append_right before List.mem_cons_self)).field hresult⟩

/-- A whole number in a document. -/
def wholeNumber (k : ℕ) : Written :=
  .number { negative := false, whole := Nat.toDigits 10 k, fraction := [], exponent := none }

/-- The text of its digits. -/
def wholeText (k : ℕ) : Written := .text (some (toString k))

theorem keepsView_ofWritten? {k : ℕ} (hpositive : 0 < k) (hshort : k < 10 ^ 15)
    (exchange : String) :
    KeepsView (wholeNumber k) (wholeText k) [] PriceField.ofWritten?
      (PriceField.price exchange) := by
  rintro _ _ ⟨⟩
  have hprice := isShortPrice_toDigits hpositive hshort
  have hdigits := (Text.isWholeNumeral_toDigits k).isDigit
  have hnumber := hprice.ofWritten?_number
  rw [Text.wholePart_of_isDigit hdigits, Text.fractionPart_of_isDigit hdigits] at hnumber
  have htext :=
    hprice.price_eq (@IsShortPrice.value_text _ [] [] exchange hprice (by simp) (by simp))
  rw [List.nil_append, List.append_nil] at htext
  rw [wholeNumber, hnumber, Option.map_some, hprice.price_eq rfl, ← htext]
  rfl

/-! ### Payloads -/

namespace Payload

variable {value other : Written} {steps : List Step} {exchange : Exchange} {base quote : String}

theorem keepsView_ofNamed?
    (h : KeepsView value other steps PriceField.ofWritten? (PriceField.price exchange.name))
    (name : String) :
    KeepsView value other (.field [name] name :: steps) (ofNamed? name)
      fun payload => Adapter.priceOf exchange base quote (.ok payload) := by
  refine KeepsView.record (List.nodup_singleton name) List.mem_cons_self
    fun fields others hfields => ?_
  have hview (sent : Option PriceField) :
      (sent >>= fun field => some (.price field)).map
          (fun payload => Adapter.priceOf exchange base quote (.ok payload)) =
        sent.map (PriceField.price exchange.name) := by
    cases sent <;> rfl
  rw [hview, hview]
  exact hfields.map_field? h

theorem keepsView_ofSpot?
    (h : KeepsView value other steps PriceField.ofWritten? (PriceField.price exchange.name)) :
    KeepsView value other (.field ["data"] "data" :: .field ["amount"] "amount" :: steps) ofSpot?
      fun payload => Adapter.priceOf exchange base quote (.ok payload) :=
  KeepsView.record (List.nodup_singleton _) List.mem_cons_self fun _ _ hfields =>
    hfields.map_field? (keepsView_ofNamed? h "amount")

theorem keepsView_tradePrices? {name : String}
    (h : KeepsView value other steps PriceField.ofWritten? (PriceField.price name)) :
    KeepsView value other
      (.field ["data"] "data" :: .item 0 :: .field ["a"] "a" :: steps) tradePrices?
      (List.map (PriceField.price name)) := by
  have htrade : KeepsView value other (.field ["a"] "a" :: steps)
      (fun entry => entry.fields? ["a"] >>= fun fields => field? fields "a" PriceField.ofWritten?)
      (PriceField.price name) :=
    KeepsView.record (List.nodup_singleton _) List.mem_cons_self fun _ _ hfields =>
      hfields.map_field? h
  exact KeepsView.record (List.nodup_singleton _) List.mem_cons_self fun _ _ hfields =>
    hfields.map_fieldOr? (htrade.listOf? 0) []

theorem keepsView_ofResult?
    (h : KeepsView value other steps PriceField.ofWritten? (PriceField.price exchange.name)) :
    KeepsView value other
      (.field ["code", "result"] "result" :: .field ["data"] "data" :: .item 0 ::
        .field ["a"] "a" :: steps) ofResult?
      fun payload => Adapter.priceOf exchange base quote (.ok payload) := by
  refine KeepsView.record (by decide) (by simp) fun fields others hfields => ?_
  have hresult := hfields.map_fieldOr? (keepsView_tradePrices? h).optional? none
  rw [hfields.field?_eq (by decide)]
  generalize fieldOr? others "result" none _ = new,
    fieldOr? fields "result" none _ = old at hresult ⊢
  cases field? fields "code" Written.integer? with
  | none => rfl
  | some code =>
    rcases old with _ | _ | _ | ⟨latest, earlier⟩
    · rw [Option.map_eq_none_iff.1 hresult]
    · obtain ⟨result, rfl, hlatest⟩ := Option.map_eq_some_iff.1 hresult
      rw [Option.map_eq_none_iff.1 hlatest]
    · obtain ⟨result, rfl, hlatest⟩ := Option.map_eq_some_iff.1 hresult
      obtain ⟨prices, rfl, hnil⟩ := Option.map_eq_some_iff.1 hlatest
      rw [List.map_eq_nil_iff.1 hnil]
    · -- of the prices nothing counts but the first one
      obtain ⟨result, rfl, hlatest⟩ := Option.map_eq_some_iff.1 hresult
      obtain ⟨prices, rfl, hcons⟩ := Option.map_eq_some_iff.1 hlatest
      obtain ⟨other, rest, rfl, hprice, -⟩ := List.map_eq_cons_iff.1 hcons
      by_cases hcode : code = 0 <;> simp [hcode, Adapter.priceOf, hprice]

theorem lookup_map_snd {α β : Type} (view : α → β) (entries : List (String × α)) (name : String) :
    (entries.map fun entry => (entry.1, view entry.2)).lookup name =
      (entries.lookup name).map view := by
  induction entries with
  | nil => rfl
  | cons entry entries ih =>
    rw [List.map_cons, List.lookup_cons, List.lookup_cons, ih]
    cases name == entry.1 <;> rfl

theorem drawnHead?_map {α β : Type} (view : α → β) (draw : ℕ) (lists : List (String × List α)) :
    drawnHead? draw (lists.map fun result => (result.1, result.2.map view)) =
      (drawnHead? draw lists).map view := by
  simp only [drawnHead?, List.length_map, List.getElem?_map, ← List.map_reverse,
    Option.bind_eq_bind, Option.bind_map, Option.map_bind]
  refine congrArg _ (funext fun result => ?_)
  simp only [Function.comp_apply, lookup_map_snd, Option.bind_map, Option.map_bind]
  exact congrArg _ (funext fun items => List.head?_map)

/-- Of results that are viewed alike, what counts is viewed alike. -/
theorem map_drawnHead? {α β : Type} {view : α → β} {old new : List (String × List α)}
    (h : (new.map fun result => (result.1, result.2.map view)) =
      old.map fun result => (result.1, result.2.map view))
    (draw : ℕ) : (drawnHead? draw new).map view = (drawnHead? draw old).map view := by
  rw [← drawnHead?_map, h, drawnHead?_map]

theorem closedTrades?_ofEntries (entries : List (String × Written)) :
    closedTrades? (.ofEntries entries) = entries.mapM closedTrade? := by
  rw [closedTrades?, Written.entries?_eq_some_iff.2 rfl]
  rfl

/-- The prices of all results stay, so that it makes no difference which of them counts. -/
theorem keepsView_closedTrades? {exchange : String}
    (h : KeepsView value other steps PriceField.ofWritten? (PriceField.price exchange)) :
    KeepsView value other (.entry :: .field ["c"] "c" :: .item 0 :: steps) closedTrades?
      (List.map fun result => (result.1, result.2.map (PriceField.price exchange))) := by
  rintro _ _ (_ | _ | _ | _ | @⟨name, _, before, after, old, new, hreplaced⟩)
  have hentry : KeepsView value other (.field ["c"] "c" :: .item 0 :: steps)
      (fun entry => closedTrade? (name, entry))
      (fun result => (result.1, result.2.map (PriceField.price exchange))) := by
    simp only [closedTrade?]
    refine KeepsView.record (List.nodup_singleton _) List.mem_cons_self
      fun fields others hfields => ?_
    have hview (prices : Option (List PriceField)) :
        (prices >>= fun prices => some (name, prices)).map
            (fun result => (result.1, result.2.map (PriceField.price exchange))) =
          (prices.map (List.map (PriceField.price exchange))).map (name, ·) := by
      cases prices <;> rfl
    rw [hview, hview, hfields.map_field? (h.listOf? 0)]
  rw [closedTrades?_ofEntries, closedTrades?_ofEntries]
  exact map_mapM_append_cons (hentry old new hreplaced) before after

theorem keepsView_ofErrorsAndResult? (symbol : String) (draw : ℕ)
    (h : KeepsView value other steps PriceField.ofWritten? (PriceField.price exchange.name)) :
    KeepsView value other
      (.field ["error", "result"] "result" :: .entry :: .field ["c"] "c" :: .item 0 :: steps)
      (ofErrorsAndResult? draw symbol) fun payload =>
        Adapter.priceOf exchange base quote (.ok payload) := by
  refine KeepsView.record (by decide) (by simp) fun fields others hfields => ?_
  have hresults := hfields.map_fieldOr? (keepsView_closedTrades? h) []
  rw [hfields.fieldOr?_eq (by decide)]
  generalize fieldOr? others "result" [] _ = new, fieldOr? fields "result" [] _ = old at hresults ⊢
  cases fieldOr? fields "error" [] (Written.listOf? Written.text?) with
  | none => rfl
  | some errors =>
    cases old with
    | none => rw [Option.map_eq_none_iff.1 hresults]
    | some old =>
      obtain ⟨new, rfl, hsame⟩ := Option.map_eq_some_iff.1 hresults
      simp only [Option.bind_eq_bind, Option.bind_some]
      split
      · rfl
      · -- without errors nothing counts but the price that is drawn
        have hdrawn := map_drawnHead? hsame draw
        generalize drawnHead? draw new = newDrawn, drawnHead? draw old = oldDrawn at hdrawn ⊢
        cases oldDrawn with
        | none => rw [Option.map_eq_none_iff.1 hdrawn]
        | some field =>
          obtain ⟨other, rfl, hprice⟩ := Option.map_eq_some_iff.1 hdrawn
          exact congrArg some hprice

/-- A text where the last price should be is no price, whatever its characters. -/
theorem ofList?_of_replaced {written : String} {field : PriceField} {document replaced : Written}
    (hreplaced : Replaced value (.text (some written)) [.item lastPriceIndex] document replaced)
    (hprice : ofList? document = some (.price field)) :
    ∃ items, data? replaced = some items ∧
      ofList? replaced =
        some (.faulty s!"ticker has no LAST_PRICE field: {labelledList items}") := by
  obtain _ | _ | _ | @⟨_, _, before, after, _, _, hplace, ⟨⟩⟩ := hreplaced
  obtain ⟨data, hdata⟩ :=
    Option.isSome_iff_exists.1 (isSome_ofList?_iff_data.1 (by rw [hprice]; rfl))
  rw [ofList?_eq_price_iff_of_data hdata] at hprice
  obtain ⟨_, hlist, hitems⟩ := data?_eq_some_iff.1 hdata
  obtain rfl := Written.list.inj hlist
  rw [List.map_append, List.map_cons] at hitems
  obtain ⟨earlier, rest, rfl, hearlier, hrest⟩ := List.map_eq_append_iff.1 hitems.symm
  obtain ⟨old, later, rfl, -, hlater⟩ := List.map_eq_cons_iff.1 hrest
  have hlength : earlier.length = lastPriceIndex := by
    rw [← hplace]
    simpa using congrArg List.length hearlier
  have hread : data? (.list (before ++ .text (some written) :: after)) =
      some (earlier ++ .text written :: later) := by
    refine data?_eq_some_iff.2 ⟨_, rfl, ?_⟩
    rw [List.map_append, List.map_cons, List.map_append, List.map_cons, hearlier, hlater,
      datum?_eq_text_iff.2 rfl]
  -- whether the list reports an error is told by an item before the price
  have hlisted : ¬ ((earlier ++ .text written :: later).isEmpty = true ∨
      reportsError (earlier ++ .text written :: later) = true) := by
    obtain ⟨head, earlier, rfl⟩ := List.exists_cons_of_length_eq_add_one hlength
    simpa [reportsError] using hprice.1
  have hplaced : (earlier ++ .text written :: later)[lastPriceIndex]? = some (.text written) := by
    rw [← hlength, List.getElem?_append_right (Nat.le_refl _), Nat.sub_self,
      List.getElem?_cons_zero]
  refine ⟨_, hread, ?_⟩
  rw [ofList?, hread]
  simp only [Option.bind_eq_bind, Option.bind_some, if_neg hlisted, hplaced, Datum.double?]

end Payload

theorem keepsView_payload? {value other : Written} {exchange : Exchange}
    (symbol base quote : String) (draw : ℕ) (hexchange : exchange ≠ .bitfinex)
    (h : KeepsView value other [] PriceField.ofWritten? (PriceField.price exchange.name)) :
    KeepsView value other exchange.pricePath (exchange.payload? symbol draw)
      fun payload => Adapter.priceOf exchange base quote (.ok payload) := by
  cases exchange with
  | bitfinex => exact absurd rfl hexchange
  | binance => exact Payload.keepsView_ofNamed? h "price"
  | coinbase => exact Payload.keepsView_ofSpot? h
  | cryptocom => exact Payload.keepsView_ofResult? h
  | gemini => exact Payload.keepsView_ofNamed? h "last"
  | kraken => exact Payload.keepsView_ofErrorsAndResult? symbol draw h

end Exchange

namespace Adapter

variable {network other : Http.Network} {adapter : Adapter} {base quote : String}
  {document replaced : Written} {price : Double}

/-- A reply of success arrives that writes the document. -/
def Receives (network : Http.Network) (adapter : Adapter) (base quote : String)
    (document : Written) : Prop :=
  ∃ reply, adapter.delivery network base quote = .arrived reply ∧
    (200 ≤ reply.status ∧ reply.status < 300) ∧
    readDocument reply.text = .ok document

/-- Some draw decides what the document is taken for, and with that the answer. -/
theorem Receives.exists_draw (h : adapter.Receives network base quote document) :
    ∃ draw, ∀ payload,
      adapter.exchange.payload? (adapter.exchange.symbol base quote) draw document = some payload →
        adapter.price network base quote = priceOf adapter.exchange base quote (.ok payload) := by
  obtain ⟨reply, hdelivery, hsuccess, hdocument⟩ := h
  exact ⟨reply.draw, fun payload hpayload =>
    (price_of_success hdelivery hsuccess).1 payload
      (decode_eq_ok_iff.2 ⟨document, hdocument, hpayload⟩)⟩

/-- There is a price only if the document is taken for one, whatever the draw if there is one
    result. -/
theorem Receives.exists_payload (h : adapter.Receives network base quote document)
    (hone : adapter.exchange = .kraken → Exchange.HasOneResult document)
    (hprice : adapter.price network base quote = .ok price) :
    ∃ field, ∀ draw, adapter.exchange.payload? (adapter.exchange.symbol base quote) draw document =
      some (.price field) := by
  obtain ⟨reply, hdelivery, hsuccess, hdocument⟩ := h
  obtain ⟨_, field, hread, hfield, -⟩ := exists_payload_of_price_eq_ok hdelivery hsuccess hprice
  obtain rfl := Except.ok.inj (hdocument.symm.trans hread)
  obtain ⟨hform, hlisted, hstands⟩ := Exchange.payload?_eq_price hfield
  exact ⟨field,
    fun draw => Exchange.payload?_eq_price_of_hasOneResult _ draw hone hform hlisted hstands⟩

/-- Where a price may be replaced without notice, the answer stays. -/
theorem Receives.price_eq_of_replaced {value text : Written}
    (h : adapter.Receives network base quote document)
    (hother : adapter.Receives other base quote replaced)
    (hone : adapter.exchange = .kraken → Exchange.HasOneResult document)
    (hkeeps : KeepsView value text [] Exchange.PriceField.ofWritten?
      (Exchange.PriceField.price adapter.name))
    (hreplaced : Replaced value text adapter.exchange.pricePath document replaced)
    (hexchange : adapter.exchange ≠ .bitfinex)
    (hprice : adapter.price network base quote = .ok price) :
    adapter.price other base quote = .ok price := by
  obtain ⟨field, hfield⟩ := h.exists_payload hone hprice
  obtain ⟨draw, hanswer⟩ := h.exists_draw
  obtain ⟨otherDraw, hotherAnswer⟩ := hother.exists_draw
  have hview := Exchange.keepsView_payload? (adapter.exchange.symbol base quote) base quote
    otherDraw hexchange hkeeps document replaced hreplaced
  rw [hfield] at hview
  obtain ⟨payload, hpayload, hsame⟩ := Option.map_eq_some_iff.1 hview
  dsimp only at hsame
  rw [hotherAnswer payload hpayload, hsame, ← hanswer _ (hfield draw), hprice]

theorem Receives.price_eq_malformed_of_replaced {value : Written} {written : String}
    (h : adapter.Receives network base quote document)
    (hother : adapter.Receives other base quote replaced)
    (hreplaced : Replaced value (.text (some written)) adapter.exchange.pricePath document replaced)
    (hexchange : adapter.exchange = .bitfinex)
    (hprice : adapter.price network base quote = .ok price) :
    ∃ items, replaced.datum? maxDepth = some (.list items) ∧
      adapter.price other base quote =
        .error
          (.malformed adapter.name s!"ticker has no LAST_PRICE field: {labelledList items}") := by
  obtain ⟨field, hfield⟩ := h.exists_payload (by simp [hexchange]) hprice
  obtain ⟨draw, hanswer⟩ := hother.exists_draw
  have hlist := hfield 0
  rw [hexchange] at hlist hreplaced
  obtain ⟨items, hitems, hfaulty⟩ := Exchange.Payload.ofList?_of_replaced hreplaced hlist
  refine ⟨items, Exchange.data?_eq_some_iff_datum?.1 hitems, ?_⟩
  have hpayload : adapter.exchange.payload? (adapter.exchange.symbol base quote) draw replaced =
      some (.faulty s!"ticker has no LAST_PRICE field: {labelledList items}") := by
    rw [hexchange]
    exact hfaulty
  rw [hanswer _ hpayload]
  rfl

/-- If a reply has a whole number for the price and the adapter answers with a price, then the
    answer is the same for every reply that has the text of its digits there, at all exchanges but
    one. That one takes no text for a price and says that there is none. Where results keep no
    order, there has to be no more than one: of several, any may be the one that counts, in the one
    reply and in the other. -/
theorem price_of_wholeText (network other : Http.Network) (adapter : Adapter)
    (base quote : String) {k : ℕ} {document replaced : Written} {price : Double}
    (hpositive : 0 < k) (hshort : k < 10 ^ 15)
    (hdocument : adapter.Receives network base quote document)
    (hother : adapter.Receives other base quote replaced)
    (hone : adapter.exchange = .kraken → Exchange.HasOneResult document)
    (hreplaced : Replaced (Exchange.wholeNumber k) (Exchange.wholeText k)
      adapter.exchange.pricePath document replaced)
    (hprice : adapter.price network base quote = .ok price) :
    (adapter.exchange ≠ .bitfinex → adapter.price other base quote = .ok price) ∧
      (adapter.exchange = .bitfinex → ∃ items, replaced.datum? maxDepth = some (.list items) ∧
        adapter.price other base quote =
          .error
            (.malformed adapter.name s!"ticker has no LAST_PRICE field: {labelledList items}")) :=
  ⟨fun hexchange => hdocument.price_eq_of_replaced hother hone
      (Exchange.keepsView_ofWritten? hpositive hshort adapter.name) hreplaced hexchange hprice,
    fun hexchange => hdocument.price_eq_malformed_of_replaced hother hreplaced hexchange hprice⟩

/-- The result of a pair, its price as a text or as a number. -/
def resultText : Bool → String
  | true => "\x7b\x22result\x22:\x7b\x22XETHZUSD\x22:\x7b\x22c\x22:[\x223150\x22]\x7d\x7d\x7d"
  | false => "\x7b\x22result\x22:\x7b\x22XETHZUSD\x22:\x7b\x22c\x22:[3150]\x7d\x7d\x7d"

/-- A result of one pair, with this as the first price of its last closed trade. -/
def resultDocument (price : Written) : Written :=
  .ofEntries [("result", .ofEntries [("XETHZUSD", .ofEntries [("c", .list [price])])])]

theorem resultDocument_replaced (value other : Written) :
    Replaced value other Exchange.kraken.pricePath (resultDocument value)
      (resultDocument other) := by
  have hfirst : Replaced value other [.item 0] (.list [value]) (.list [other]) :=
    @Replaced.item _ _ 0 _ [] [] _ _ rfl .here
  have hentry := @Replaced.named _ _ ["c"] "c" _ [] [] _ _ hfirst
  exact @Replaced.named _ _ _ _ _ [] [] _ _ (@Replaced.entry _ _ "XETHZUSD" _ [] [] _ _ hentry)

theorem hasOneResult_resultDocument (price : Written) :
    Exchange.HasOneResult (resultDocument price) := by
  intro entries hfield
  simp only [resultDocument, Written.hasField_ofEntries_iff, List.mem_singleton, Prod.mk.injEq,
    Written.ofEntries_inj, true_and] at hfield
  subst hfield
  simp

/-- The price is 3150 either way, whatever is drawn. -/
theorem price_of_wholeText_result :
    (usual .kraken).price (fun _ => .arrived (.plain 200 (resultText false))) "ETH" "USD" =
        .ok 3150 ∧
      (usual .kraken).price (fun _ => .arrived (.plain 203 (resultText true) 5)) "ETH" "USD" =
        .ok 3150 := by
  have hnumber : readDocument (Http.Reply.plain 200 (resultText false)).text =
      .ok (resultDocument (Exchange.wholeNumber 3150)) := by
    rw [Http.Reply.text_plain _ _ ⟨'\x7b', by simp [resultText], by decide⟩]
    simp only [readDocument, resultText, String.reduceToList]
    rfl
  have htext : readDocument (Http.Reply.plain 203 (resultText true) 5).text =
      .ok (resultDocument (Exchange.wholeText 3150)) := by
    rw [Http.Reply.text_plain _ _ ⟨'\x7b', by simp [resultText], by decide⟩]
    simp only [readDocument, resultText, String.reduceToList]
    rfl
  have hprice : (usual .kraken).price
      (fun _ => .arrived (.plain 200 (resultText false))) "ETH" "USD" = .ok 3150 := by
    decide +kernel
  obtain ⟨hsame, -⟩ := price_of_wholeText _
    (fun _ => .arrived (.plain 203 (resultText true) 5)) (usual .kraken) "ETH" "USD"
    (by decide : 0 < 3150) (by decide) ⟨_, by decide +kernel, by decide, hnumber⟩
    ⟨_, by decide +kernel, by decide, htext⟩ (fun _ => hasOneResult_resultDocument _)
    (resultDocument_replaced _ _) hprice
  exact ⟨hprice, hsame (by decide)⟩

/-- A list with the last price as a text or as a number. -/
def tickerText : Bool → String
  | true => "[3149,12.5,3151,9.1,-20,-0.0063,\x223000\x22]"
  | false => "[3149,12.5,3151,9.1,-20,-0.0063,3000]"

/-- A ticker with this as its last price. -/
def tickerDocument (price : Written) : Written :=
  .list [.number ⟨false, "3149".toList, [], none⟩, .number ⟨false, "12".toList, "5".toList, none⟩,
    .number ⟨false, "3151".toList, [], none⟩, .number ⟨false, "9".toList, "1".toList, none⟩,
    .number ⟨true, "20".toList, [], none⟩, .number ⟨true, "0".toList, "0063".toList, none⟩, price]

/-- The text of a price is refused where the number is taken. -/
theorem wholeText_refused_in_list :
    (usual .bitfinex).Receives (fun _ => .arrived (.plain 200 (tickerText false))) "ETH" "USD"
        (tickerDocument (Exchange.wholeNumber 3000)) ∧
      (usual .bitfinex).Receives (fun _ => .arrived (.plain 200 (tickerText true))) "ETH" "USD"
        (tickerDocument (Exchange.wholeText 3000)) ∧
      Replaced (Exchange.wholeNumber 3000) (Exchange.wholeText 3000) Exchange.bitfinex.pricePath
        (tickerDocument (Exchange.wholeNumber 3000)) (tickerDocument (Exchange.wholeText 3000)) ∧
      (usual .bitfinex).price (fun _ => .arrived (.plain 200 (tickerText false))) "ETH" "USD" =
        .ok 3000 ∧
      (usual .bitfinex).price (fun _ => .arrived (.plain 200 (tickerText true))) "ETH" "USD" ≠
        .ok 3000 := by
  have hnumber : readDocument (Http.Reply.plain 200 (tickerText false)).text =
      .ok (tickerDocument (Exchange.wholeNumber 3000)) := by
    rw [Http.Reply.text_plain _ _ ⟨'[', by simp [tickerText], by decide⟩]
    simp only [readDocument, tickerText, String.reduceToList]
    rfl
  have htext : readDocument (Http.Reply.plain 200 (tickerText true)).text =
      .ok (tickerDocument (Exchange.wholeText 3000)) := by
    rw [Http.Reply.text_plain _ _ ⟨'[', by simp [tickerText], by decide⟩]
    simp only [readDocument, tickerText, String.reduceToList]
    rfl
  have hreplaced (value other : Written) :
      Replaced value other Exchange.bitfinex.pricePath (tickerDocument value)
        (tickerDocument other) :=
    @Replaced.item _ _ _ _ [_, _, _, _, _, _] [] _ _ rfl .here
  exact ⟨⟨_, by decide +kernel, by decide, hnumber⟩, ⟨_, by decide +kernel, by decide, htext⟩,
    hreplaced _ _, by decide +kernel, by decide +kernel⟩

end Adapter

end FeeOracle
