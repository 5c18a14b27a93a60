import FeeOracle.Exchange.Payload
import FeeOracle.Proofs.Json.Record
import Mathlib.Data.List.Nodup

/-!
# The documents of exchanges

Each exchange has a form that its documents keep to (`HasForm`). Some report a failure in the
document itself (`ReportsFailure`), and the price has its own place in every form (`PriceStands`). A
document is taken for a price only if it keeps to the form, reports no failure and has a price in
that place, whatever else it holds.
-/

namespace FeeOracle.Exchange

open Json Payload

/-! ### Forms -/

/-- The document is a record with a price under the name. -/
def PriceUnder (name : String) (document : Written) (field : PriceField) : Prop :=
  document.IsRecord [name] ∧ ∃ value,
    document.HasField [name] name value ∧ PriceField.ofWritten? value = some field

/-- The document is a record with a list of prices, those of its last closed trade. -/
def ClosedTrade (document : Written) (prices : List PriceField) : Prop :=
  document.IsRecord ["c"] ∧
    ∃ items,
      document.HasField ["c"] "c" (.list items) ∧ items.map PriceField.ofWritten? = prices.map some

/-- The document is a record of trades, each with its price, if there are any. -/
def HoldsTrades (document : Written) : Prop :=
  document.IsRecord ["data"] ∧ ∀ trades, document.HasField ["data"] "data" trades →
    ∃ entries, trades = .list entries ∧ ∀ entry ∈ entries, ∃ field, PriceUnder "a" entry field

/-- The document is a table with the last closed trade of each entry. -/
def HoldsClosedTrades (document : Written) : Prop :=
  ∃ entries, document = .ofEntries entries ∧ ∀ entry ∈ entries, ∃ prices, ClosedTrade entry.2 prices

/-- The document has the form that the exchange's documents have. -/
def HasForm (exchange : Exchange) (document : Written) : Prop :=
  match exchange with
  | binance => ∃ field, PriceUnder "price" document field
  | bitfinex =>
    ∃ items, document = .list items ∧ ∀ item ∈ items, (item.datum? (maxDepth - 1)).isSome = true
  | coinbase =>
    document.IsRecord ["data"] ∧ ∃ data field,
      document.HasField ["data"] "data" data ∧ PriceUnder "amount" data field
  | cryptocom =>
    document.IsRecord ["code", "result"] ∧
      (∃ code, document.HasField ["code", "result"] "code" code ∧ code.integer?.isSome = true) ∧
      ∀ result,
        document.HasField ["code", "result"] "result" result → result = .null ∨ HoldsTrades result
  | gemini => ∃ field, PriceUnder "last" document field
  | kraken =>
    document.IsRecord ["error", "result"] ∧
      (∀ errors, document.HasField ["error", "result"] "error" errors →
        ∃ items, errors = .list items ∧ ∀ item ∈ items, ∃ text, item = .text (some text)) ∧
      ∀ results, document.HasField ["error", "result"] "result" results → HoldsClosedTrades results

/-- The document reports that the exchange has no price. -/
def ReportsFailure (exchange : Exchange) (document : Written) : Prop :=
  match exchange with
  | bitfinex => document = .list [] ∨ ∃ rest, document = .list (.text (some "error") :: rest)
  | cryptocom =>
    ∃ code number,
      document.HasField ["code", "result"] "code" code ∧ code.integer? = some number ∧ number ≠ 0
  | kraken =>
    ∃ error errors, document.HasField ["error", "result"] "error" (.list (error :: errors))
  | _ => False

/-- The price field stands where the exchange's documents have the price. Of entries with the same
    name the last one counts. -/
def PriceStands (exchange : Exchange) (document : Written) (field : PriceField) : Prop :=
  match exchange with
  | binance => PriceUnder "price" document field
  | bitfinex =>
    ∃ items item last, document = .list items ∧ items[6]? = some item ∧ item.double? = some last ∧
      field = .number last
  | coinbase => ∃ data, document.HasField ["data"] "data" data ∧ PriceUnder "amount" data field
  | cryptocom =>
    ∃ result trade trades, document.HasField ["code", "result"] "result" result ∧
      result.HasField ["data"] "data" (.list (trade :: trades)) ∧ PriceUnder "a" trade field
  | gemini => PriceUnder "last" document field
  | kraken =>
    ∃ before name entry after prices,
      document.HasField ["error", "result"] "result"
        (.ofEntries (before ++ (name, entry) :: after)) ∧
        (∀ later ∈ after, later.1 ≠ name) ∧ ClosedTrade entry (field :: prices)

/-- All entries of the result have one name, if there are any. -/
def HasOneResult (document : Written) : Prop :=
  ∀ entries, document.HasField ["error", "result"] "result" (.ofEntries entries) →
    ∀ one ∈ entries, ∀ other ∈ entries, one.1 = other.1

variable {exchange : Exchange} {symbol name : String} {document : Written} {field : PriceField}
  {payload : Payload} {draw : ℕ}

/-! ### A price under a name -/

theorem bind_field?_price_eq_some_iff :
    (document.fields? [name] >>= fun fields => field? fields name PriceField.ofWritten?) =
        some field ↔
      PriceUnder name document field :=
  Written.bind_field?_eq_some_iff (List.nodup_singleton name) List.mem_cons_self

theorem isSome_bind_field?_price_iff :
    (document.fields? [name] >>= fun fields => field? fields name PriceField.ofWritten?).isSome =
        true ↔
      ∃ field, PriceUnder name document field := by
  rw [Option.isSome_iff_exists]
  simp only [bind_field?_price_eq_some_iff]

theorem ofNamed?_eq_some_iff :
    ofNamed? name document = some payload ↔
    ∃ field, PriceUnder name document field ∧ .price field = payload := by
  have hassoc : ofNamed? name document =
      (document.fields? [name] >>= fun fields => field? fields name PriceField.ofWritten?) >>=
        fun sent => some (.price sent) := by
    rw [ofNamed?, bind_assoc]
  rw [hassoc, Option.bind_eq_bind, Option.bind_eq_some_iff]
  simp only [bind_field?_price_eq_some_iff, Option.some.injEq]

theorem ofSpot?_eq_some_iff :
    ofSpot? document = some payload ↔ document.IsRecord ["data"] ∧
      ∃ data field, document.HasField ["data"] "data" data ∧ PriceUnder "amount" data field ∧
        .price field = payload := by
  rw [ofSpot?, Written.bind_field?_eq_some_iff (List.nodup_singleton _) List.mem_cons_self]
  simp only [ofNamed?_eq_some_iff, exists_and_left]

/-! ### A price at a place -/

theorem itemsDatum?_eq_mapM (levels : Nat) (items : List Written) :
    itemsDatum? levels items = items.mapM (·.datum? levels) := by
  induction items with
  | nil => rfl
  | cons item items ih => rw [itemsDatum?, ih, List.mapM_cons]; rfl

theorem data?_eq_some_iff {data : List Datum} :
    data? document = some data ↔
      ∃ items, document = .list items ∧ items.map (·.datum? (maxDepth - 1)) = data.map some := by
  cases document <;> simp [data?, itemsDatum?_eq_mapM, mapM_eq_some_iff]

/-- What a numeral is read as is a number. -/
private theorem numeralDatum?_ne {numeral : Numeral} {datum : Datum} (h : datum.double? = none) :
    numeral.datum? ≠ some datum := by
  rintro hnumeral
  unfold Numeral.datum? at hnumeral
  dsimp only at hnumeral
  cases datum with
  | integer value => cases h
  | double value => cases h
  | _ => split_ifs at hnumeral <;> simp at hnumeral

/-- A list is read as data from nothing but a list. -/
theorem data?_eq_some_iff_datum? {data : List Datum} :
    data? document = some data ↔ document.datum? maxDepth = some (.list data) := by
  cases document with
  | number numeral =>
    simp [data?, Written.datum?, numeralDatum?_ne (show (Datum.list data).double? = none from rfl)]
  | list items => simp [data?, maxDepth, Written.datum?]
  | table entries => simp [data?, maxDepth, Written.datum?, Datum.sortedTable]
  | _ => simp [data?, Written.datum?]

/-- A text is read as data from nothing but that text. -/
theorem datum?_eq_text_iff {item : Written} {levels : Nat} {text : String} :
    item.datum? levels = some (.text text) ↔ item = .text (some text) := by
  cases item with
  | number numeral =>
    simp [Written.datum?, numeralDatum?_ne (show (Datum.text text).double? = none from rfl)]
  | list items => cases levels <;> simp [Written.datum?]
  | table entries => cases levels <;> simp [Written.datum?, Datum.sortedTable]
  | _ => simp [Written.datum?]

/-- A double is read as data just as it is read for itself. -/
theorem bind_double?_datum? {item : Written} {levels : Nat} :
    (item.datum? levels).bind Datum.double? = item.double? := by
  cases item with
  | list items =>
    cases levels <;>
      simp [Written.datum?, Written.double?, Option.bind_map, Function.comp_def, Datum.double?]
  | table entries =>
    cases levels <;>
      simp [Written.datum?, Written.double?, Option.bind_map, Function.comp_def, Datum.double?,
        Datum.sortedTable]
  | _ => simp [Written.datum?, Written.double?, Option.bind_map, Function.comp_def, Datum.double?]

theorem reportsError_iff {data : List Datum} :
    reportsError data = true ↔ ∃ rest, data = .text "error" :: rest := by
  have htext (datum : Datum) : datum.text? = some "error" ↔ datum = .text "error" := by
    cases datum <;> simp [Datum.text?]
  cases data <;> simp [reportsError, htext]

/-- A list reports an error if and only if it begins with that text. -/
theorem reportsError_iff_of_items {items : List Written} {data : List Datum}
    (hdata : items.map (·.datum? (maxDepth - 1)) = data.map some) :
    reportsError data = true ↔ ∃ rest, items = .text (some "error") :: rest := by
  rw [reportsError_iff]
  cases items with
  | nil =>
    obtain rfl : data = [] := by simpa using hdata.symm
    simp
  | cons item items =>
    obtain ⟨first, rest, rfl, hfirst, -⟩ := List.map_eq_cons_iff.1 hdata.symm
    have hitem : item.datum? (maxDepth - 1) = some (.text "error") ↔ item = .text (some "error") :=
      datum?_eq_text_iff
    rw [show item.datum? (maxDepth - 1) = some first from hfirst.symm, Option.some.injEq] at hitem
    simp [hitem]

theorem isSome_ofList?_iff_data :
    (ofList? document).isSome = true ↔ (data? document).isSome = true := by
  rw [ofList?, Option.bind_eq_bind]
  cases data? document with
  | none => simp
  | some data =>
    rw [Option.bind_some]
    split
    · simp
    · split <;> simp

theorem isSome_ofList?_iff : (ofList? document).isSome = true ↔ HasForm .bitfinex document := by
  rw [isSome_ofList?_iff_data, HasForm]
  cases document <;> simp [data?, itemsDatum?_eq_mapM, isSome_mapM_iff]

/-- The double at a place among the data is the one at that place in the list. -/
theorem bind_double?_getElem? {items : List Written} {data : List Datum}
    (hdata : items.map (·.datum? (maxDepth - 1)) = data.map some) (place : Nat) :
    (data[place]?).bind Datum.double? = (items[place]?).bind Written.double? := by
  have hplace : (items[place]?).map (·.datum? (maxDepth - 1)) = (data[place]?).map some := by
    rw [← List.getElem?_map, ← List.getElem?_map, hdata]
  have hitem : (items[place]?).bind Written.double? =
      ((items[place]?).map (·.datum? (maxDepth - 1))).bind fun datum? =>
        datum?.bind Datum.double? := by
    rw [Option.bind_map]
    exact congrArg _ (funext fun item => bind_double?_datum?.symm)
  rw [hitem, hplace, Option.bind_map]
  rfl

theorem ofList?_eq_price_iff_of_data {data : List Datum} (hdata : data? document = some data) :
    ofList? document = some (.price field) ↔
      ¬ (data = [] ∨ reportsError data = true) ∧
        ∃ last, (data[lastPriceIndex]?).bind Datum.double? = some last ∧ .number last = field := by
  rw [ofList?, hdata, Option.bind_eq_bind, Option.bind_some]
  simp only [List.isEmpty_iff]
  split
  next hnone => simp [hnone]
  next hsome => cases (data[lastPriceIndex]?).bind Datum.double? <;> simp [hsome]

theorem ofList?_eq_price_iff :
    ofList? document = some (.price field) ↔
      HasForm .bitfinex document ∧ ¬ ReportsFailure .bitfinex document ∧
      PriceStands .bitfinex document field := by
  rw [← isSome_ofList?_iff, isSome_ofList?_iff_data]
  cases hdata : data? document with
  | none => simp [ofList?, hdata]
  | some data =>
    obtain ⟨items, rfl, hitems⟩ := data?_eq_some_iff.1 hdata
    have hnil : data = [] ↔ items = [] := by
      rw [← List.map_eq_nil_iff (f := some), ← hitems, List.map_eq_nil_iff]
    rw [ofList?_eq_price_iff_of_data hdata, bind_double?_getElem? hitems,
      reportsError_iff_of_items hitems, hnil]
    simp only [Option.isSome_some, true_and, ReportsFailure, PriceStands, Written.list.injEq,
      Option.bind_eq_some_iff]
    refine and_congr_right fun _ => ?_
    constructor
    · rintro ⟨last, ⟨item, hitem, hlast⟩, rfl⟩
      exact ⟨items, item, last, rfl, hitem, hlast, rfl⟩
    · rintro ⟨_, item, last, rfl, hitem, hlast, rfl⟩
      exact ⟨last, ⟨item, hitem, hlast⟩, rfl⟩

/-! ### A price in a result -/

theorem isSome_tradePrices?_iff : (tradePrices? document).isSome = true ↔ HoldsTrades document := by
  rw [HoldsTrades, ← Written.isSome_fields?_iff, tradePrices?, Option.bind_eq_bind]
  cases hfields : document.fields? ["data"] with
  | none => simp
  | some fields =>
    rw [Option.bind_some,
      Written.isSome_fieldOr?_iff [] hfields (List.nodup_singleton _) List.mem_cons_self]
    simp only [Written.isSome_listOf?_iff, isSome_bind_field?_price_iff,
      Option.isSome_some, true_and]

/-- The first price is that of the first trade. -/
theorem exists_tradePrices?_eq_cons_iff (hsome : (tradePrices? document).isSome = true) :
    (∃ rest, tradePrices? document = some (field :: rest)) ↔
      ∃ trade trades, document.HasField ["data"] "data" (.list (trade :: trades)) ∧
        PriceUnder "a" trade field := by
  obtain ⟨prices, hprices⟩ := Option.isSome_iff_exists.1 hsome
  obtain ⟨fields, hfields, hdecoded⟩ := Option.bind_eq_some_iff.1 hprices
  rw [Written.fieldOr?_eq_some_iff hfields (List.nodup_singleton _) List.mem_cons_self] at hdecoded
  simp only [Written.listOf?_eq_some_iff] at hdecoded
  rw [hprices]
  constructor
  · rintro ⟨rest, hcons⟩
    obtain rfl := Option.some.inj hcons
    obtain ⟨_, hfield, entries, rfl, hentries⟩ | ⟨-, hnil⟩ := hdecoded
    · obtain ⟨trade, trades, rfl, htrade, -⟩ := List.map_eq_cons_iff.1 hentries
      exact ⟨trade, trades, hfield, bind_field?_price_eq_some_iff.1 htrade⟩
    · cases hnil
  · rintro ⟨trade, trades, hfield, hprice⟩
    obtain ⟨_, hother, entries, rfl, hentries⟩ | ⟨hnone, -⟩ := hdecoded
    · obtain rfl :=
        Written.list.inj (hfield.unique hfields (List.nodup_singleton _) List.mem_cons_self hother)
      rw [List.map_cons, show (Written.fields? ["a"] trade >>= _) = _ from
        bind_field?_price_eq_some_iff.2 hprice]
        at hentries
      obtain ⟨first, rest, rfl, hfirst, -⟩ := List.map_eq_cons_iff.1 hentries.symm
      obtain rfl := Option.some.inj hfirst
      exact ⟨rest, rfl⟩
    · exact absurd hfield (hnone _)

theorem isSome_ofResult?_of_fields {fields : List (String × Written)} {number : Int}
    {result : Option (List PriceField)}
    (hfields : document.fields? ["code", "result"] = some fields)
    (hcode : field? fields "code" Written.integer? = some number)
    (hresult : fieldOr? fields "result" none (Written.optional? tradePrices?) = some result) :
    (ofResult? document).isSome = true := by
  simp only [ofResult?, hfields, hcode, hresult, Option.bind_eq_bind, Option.bind_some]
  split <;> rfl

/-- A table with a code and a result is taken for a price if and only if the code is zero and the
    result has one. -/
theorem ofResult?_eq_price_iff_of_fields {fields : List (String × Written)} {number : Int}
    {result : Option (List PriceField)}
    (hfields : document.fields? ["code", "result"] = some fields)
    (hcode : field? fields "code" Written.integer? = some number)
    (hresult : fieldOr? fields "result" none (Written.optional? tradePrices?) = some result) :
    ofResult? document = some (.price field) ↔
    number = 0 ∧ ∃ rest, result = some (field :: rest) := by
  simp only [ofResult?, hfields, hcode, hresult, Option.bind_eq_bind, Option.bind_some]
  match result with
  | none => simp
  | some [] => simp
  | some (latest :: rest) => by_cases hnumber : number = 0 <;> simp [hnumber]

theorem exists_of_isSome_ofResult? (h : (ofResult? document).isSome = true) :
    ∃ fields number result, document.fields? ["code", "result"] = some fields ∧
      field? fields "code" Written.integer? = some number ∧
      fieldOr? fields "result" none (Written.optional? tradePrices?) = some result := by
  obtain ⟨payload, hpayload⟩ := Option.isSome_iff_exists.1 h
  obtain ⟨fields, hfields, hrest⟩ := Option.bind_eq_some_iff.1 hpayload
  obtain ⟨number, hnumber, hrest⟩ := Option.bind_eq_some_iff.1 hrest
  obtain ⟨result, hresult, -⟩ := Option.bind_eq_some_iff.1 hrest
  exact ⟨fields, number, result, hfields, hnumber, hresult⟩

theorem isSome_ofResult?_iff : (ofResult? document).isSome = true ↔
    HasForm .cryptocom document := by
  rw [HasForm, ← Written.isSome_fields?_iff]
  simp only [← isSome_tradePrices?_iff, ← Written.isSome_optional?_iff]
  constructor
  · intro h
    obtain ⟨fields, number, result, hfields, hcode, hresult⟩ := exists_of_isSome_ofResult? h
    rw [← Written.isSome_field?_iff hfields (by decide) (by simp), hcode,
      ← Written.isSome_fieldOr?_iff none hfields (by decide) (by simp), hresult, hfields]
    exact ⟨rfl, rfl, rfl⟩
  · rintro ⟨hrecord, hcode, hresult⟩
    obtain ⟨fields, hfields⟩ := Option.isSome_iff_exists.1 hrecord
    rw [← Written.isSome_field?_iff hfields (by decide) (by simp)] at hcode
    rw [← Written.isSome_fieldOr?_iff none hfields (by decide) (by simp)] at hresult
    obtain ⟨number, hnumber⟩ := Option.isSome_iff_exists.1 hcode
    obtain ⟨result, hdecoded⟩ := Option.isSome_iff_exists.1 hresult
    exact isSome_ofResult?_of_fields hfields hnumber hdecoded

/-- The result has a price if and only if its first trade has. -/
theorem exists_result_eq_cons_iff {fields : List (String × Written)}
    {result : Option (List PriceField)}
    (hfields : document.fields? ["code", "result"] = some fields)
    (hresult : fieldOr? fields "result" none (Written.optional? tradePrices?) = some result) :
    (∃ rest, result = some (field :: rest)) ↔ PriceStands .cryptocom document field := by
  rw [Written.fieldOr?_eq_some_iff hfields (by decide) (by simp)] at hresult
  constructor
  · rintro ⟨rest, rfl⟩
    obtain ⟨value, hfield, hdecoded⟩ | ⟨-, hnone⟩ := hresult
    · -- a result that is null has no prices
      have hpresent : value ≠ .null := by
        rintro rfl
        cases hdecoded
      obtain ⟨prices, hprices, hcons⟩ := (Written.optional?_eq_some_iff hpresent).1 hdecoded
      obtain rfl := Option.some.inj hcons
      obtain ⟨trade, trades, htrades, hprice⟩ :=
        (exists_tradePrices?_eq_cons_iff (by simp [hprices])).1 ⟨rest, hprices⟩
      exact ⟨value, trade, trades, hfield, htrades, hprice⟩
    · cases hnone
  · rintro ⟨value, trade, trades, hfield, htrades, hprice⟩
    obtain ⟨other, hother, hdecoded⟩ | ⟨hnone, -⟩ := hresult
    · obtain rfl := hfield.unique hfields (by decide) (by simp) hother
      obtain ⟨prices, hprices, rfl⟩ := (Written.optional?_eq_some_iff htrades.ne_null).1 hdecoded
      obtain ⟨rest, hcons⟩ :=
        (exists_tradePrices?_eq_cons_iff (by simp [hprices])).2 ⟨trade, trades, htrades, hprice⟩
      exact ⟨rest, hprices.symm.trans hcons⟩
    · exact absurd hfield (hnone _)

/-- The code is zero if and only if no failure is reported. -/
theorem number_eq_zero_iff {fields : List (String × Written)} {number : Int}
    (hfields : document.fields? ["code", "result"] = some fields)
    (hcode : field? fields "code" Written.integer? = some number) :
    number = 0 ↔ ¬ ReportsFailure .cryptocom document := by
  obtain ⟨code, hfield, hnumber⟩ :=
    (Written.field?_eq_some_iff hfields (by decide) (by simp)).1 hcode
  constructor
  · rintro rfl ⟨other, otherNumber, hother, hotherNumber, hne⟩
    obtain rfl := hfield.unique hfields (by decide) (by simp) hother
    exact hne (Option.some.inj (hotherNumber.symm.trans hnumber))
  · intro hlisted
    by_contra hne
    exact hlisted ⟨code, number, hfield, hnumber, hne⟩

theorem ofResult?_eq_price_iff :
    ofResult? document = some (.price field) ↔
      HasForm .cryptocom document ∧ ¬ ReportsFailure .cryptocom document ∧
      PriceStands .cryptocom document field := by
  rw [← isSome_ofResult?_iff]
  by_cases hsome : (ofResult? document).isSome = true
  · obtain ⟨fields, number, result, hfields, hcode, hresult⟩ := exists_of_isSome_ofResult? hsome
    rw [ofResult?_eq_price_iff_of_fields hfields hcode hresult, number_eq_zero_iff hfields hcode,
      exists_result_eq_cons_iff hfields hresult]
    simp only [hsome, true_and]
  · have hnone := Option.not_isSome_iff_eq_none.1 hsome
    simp [hnone]

/-! ### A price in a table of results -/

theorem closedTrade_iff {prices : List PriceField} :
    (document.fields? ["c"] >>= fun fields =>
      field? fields "c" (Written.listOf? PriceField.ofWritten?)) = some prices ↔
      ClosedTrade document prices := by
  rw [Written.bind_field?_eq_some_iff (List.nodup_singleton _) List.mem_cons_self, ClosedTrade]
  simp only [Written.listOf?_eq_some_iff]
  constructor
  · rintro ⟨hrecord, _, hfield, items, rfl, hprices⟩
    exact ⟨hrecord, items, hfield, hprices⟩
  · rintro ⟨hrecord, items, hfield, hprices⟩
    exact ⟨hrecord, _, hfield, items, rfl, hprices⟩

/-- The name of an entry with the prices of its last closed trade. -/
def closedTrade? (entry : String × Written) : Option (String × List PriceField) := do
  let fields ← entry.2.fields? ["c"]
  let prices ← field? fields "c" (Written.listOf? PriceField.ofWritten?)
  some (entry.1, prices)

theorem closedTrade?_eq_some_iff {entry : String × Written} {result : String × List PriceField} :
    closedTrade? entry = some result ↔ entry.1 = result.1 ∧ ClosedTrade entry.2 result.2 := by
  have hassoc : closedTrade? entry =
      (entry.2.fields? ["c"] >>= fun fields =>
        field? fields "c" (Written.listOf? PriceField.ofWritten?)) >>=
        fun prices => some (entry.1, prices) := by
    rw [closedTrade?, bind_assoc]
  rw [hassoc, Option.bind_eq_bind, Option.bind_eq_some_iff]
  simp only [closedTrade_iff, Option.some.injEq]
  constructor
  · rintro ⟨prices, hprices, rfl⟩
    exact ⟨rfl, hprices⟩
  · rintro ⟨hname, hprices⟩
    exact ⟨result.2, hprices, Prod.ext hname rfl⟩

theorem closedTrades?_eq_some_iff {results : List (String × List PriceField)} :
    closedTrades? document = some results ↔
      ∃ entries, document = .ofEntries entries ∧ entries.map closedTrade? = results.map some := by
  simp only [closedTrades?, Option.bind_eq_bind, Option.bind_eq_some_iff,
    Written.entries?_eq_some_iff]
  exact exists_congr fun entries => and_congr_right fun _ => mapM_eq_some_iff

theorem isSome_closedTrades?_iff :
    (closedTrades? document).isSome = true ↔ HoldsClosedTrades document := by
  have hentry (entry : String × Written) :
      (closedTrade? entry).isSome = true ↔ ∃ prices, ClosedTrade entry.2 prices := by
    simp only [Option.isSome_iff_exists, closedTrade?_eq_some_iff, Prod.exists, exists_and_left,
      exists_eq_left']
  simp only [HoldsClosedTrades, Option.isSome_iff_exists, closedTrades?_eq_some_iff,
    ← mapM_eq_some_iff]
  rw [exists_comm]
  simp only [exists_and_left]
  refine exists_congr fun entries => and_congr_right fun _ => ?_
  rw [← Option.isSome_iff_exists, isSome_mapM_iff]
  simp only [hentry]

private theorem map_fst_of_map_closedTrade? {entries : List (String × Written)}
    {results : List (String × List PriceField)} (h : entries.map closedTrade? = results.map some) :
    entries.map (·.1) = results.map (·.1) := by
  induction entries generalizing results with
  | nil =>
    obtain rfl : results = [] := by simpa using h.symm
    rfl
  | cons entry entries ih =>
    obtain ⟨result, rest, rfl, hresult, hrest⟩ := List.map_eq_cons_iff.1 h.symm
    rw [List.map_cons, List.map_cons, ih hrest.symm, (closedTrade?_eq_some_iff.1 hresult.symm).1]

/-- Of entries with the same name the last one counts. -/
theorem lookup_reverse_eq_some_iff {entries : List (String × Written)}
    {results : List (String × List PriceField)} {prices : List PriceField}
    (hresults : entries.map closedTrade? = results.map some) :
    results.reverse.lookup name = some prices ↔
      ∃ before entry after,
        entries = before ++ (name, entry) :: after ∧ (∀ later ∈ after, later.1 ≠ name) ∧
        ClosedTrade entry prices := by
  have hlater {after : List (String × Written)} {later : List (String × List PriceField)}
      (h : after.map closedTrade? = later.map some) :
      (∀ entry ∈ after, entry.1 ≠ name) ↔ ∀ result ∈ later, result.1 ≠ name := by
    -- the entries and their results have the same names in the same order
    rw [← List.forall_mem_map (f := Prod.fst) (P := (· ≠ name)), map_fst_of_map_closedTrade? h,
      List.forall_mem_map]
  rw [List.lookup_eq_some_iff]
  constructor
  · rintro ⟨later, earlier, hsplit, hlast⟩
    rw [List.reverse_eq_iff] at hsplit
    simp only [List.reverse_append, List.reverse_cons, List.append_assoc,
      List.singleton_append] at hsplit
    rw [hsplit, List.map_append, List.map_cons] at hresults
    obtain ⟨before, rest, rfl, -, hrest⟩ := List.map_eq_append_iff.1 hresults
    obtain ⟨⟨other, entry⟩, after, rfl, hentry, hafter⟩ := List.map_eq_cons_iff.1 hrest
    obtain ⟨rfl, hclosed⟩ := closedTrade?_eq_some_iff.1 hentry
    refine ⟨before, entry, after, rfl, (hlater hafter).2 ?_, hclosed⟩
    intro result hresult
    exact (bne_iff_ne.1 (hlast result (List.mem_reverse.1 hresult))).symm
  · rintro ⟨before, entry, after, rfl, hlast, hclosed⟩
    rw [List.map_append, List.map_cons] at hresults
    obtain ⟨earlier, rest, rfl, -, hrest⟩ := List.map_eq_append_iff.1 hresults.symm
    obtain ⟨result, later, rfl, hresult, hafter⟩ := List.map_eq_cons_iff.1 hrest
    obtain rfl : (name, prices) = result :=
      Option.some.inj ((closedTrade?_eq_some_iff.2 ⟨rfl, hclosed⟩).symm.trans hresult.symm)
    refine ⟨later.reverse, earlier.reverse, by simp, ?_⟩
    intro result hresult
    exact bne_iff_ne.2 ((hlater hafter.symm).1 hlast result (List.mem_reverse.1 hresult)).symm

theorem isSome_ofErrorsAndResult?_of_fields {fields : List (String × Written)}
    {errors : List String} {results : List (String × List PriceField)}
    (hfields : document.fields? ["error", "result"] = some fields)
    (herrors : fieldOr? fields "error" [] (Written.listOf? Written.text?) = some errors)
    (hresults : fieldOr? fields "result" [] closedTrades? = some results) :
    (ofErrorsAndResult? draw symbol document).isSome = true := by
  simp only [ofErrorsAndResult?, hfields, herrors, hresults, Option.bind_eq_bind, Option.bind_some]
  split
  · rfl
  · split <;> rfl

/-- The last result of the name that is drawn has the price. -/
theorem drawnHead?_eq_some_iff {draw : ℕ} {results : List (String × List PriceField)} :
    drawnHead? draw results = some field ↔
      ∃ drawn rest, results[draw % results.length]? = some drawn ∧
        results.reverse.lookup drawn.1 = some (field :: rest) := by
  simp only [drawnHead?, Option.bind_eq_bind, Option.bind_eq_some_iff, List.head?_eq_some_iff]
  constructor
  · rintro ⟨drawn, hdrawn, _, hlookup, rest, rfl⟩
    exact ⟨drawn, rest, hdrawn, hlookup⟩
  · rintro ⟨drawn, rest, hdrawn, hlookup⟩
    exact ⟨drawn, hdrawn, _, hlookup, rest, rfl⟩

/-- A table with errors and results is taken for a price if and only if there are no errors and a
    price is drawn. -/
theorem ofErrorsAndResult?_eq_price_iff_of_fields {fields : List (String × Written)}
    {errors : List String} {results : List (String × List PriceField)}
    (hfields : document.fields? ["error", "result"] = some fields)
    (herrors : fieldOr? fields "error" [] (Written.listOf? Written.text?) = some errors)
    (hresults : fieldOr? fields "result" [] closedTrades? = some results) :
    ofErrorsAndResult? draw symbol document = some (.price field) ↔
      errors = [] ∧ drawnHead? draw results = some field := by
  simp only [ofErrorsAndResult?, hfields, herrors, hresults, Option.bind_eq_bind, Option.bind_some]
  cases errors with
  | cons error errors =>
    simp only [List.isEmpty_cons, Bool.not_false, if_true, Option.some.injEq, reduceCtorEq,
      false_and, iff_false]
    split <;> simp
  | nil => cases drawnHead? draw results <;> simp

theorem exists_of_isSome_ofErrorsAndResult?
    (h : (ofErrorsAndResult? draw symbol document).isSome = true) :
    ∃ fields errors results, document.fields? ["error", "result"] = some fields ∧
      fieldOr? fields "error" [] (Written.listOf? Written.text?) = some errors ∧
      fieldOr? fields "result" [] closedTrades? = some results := by
  obtain ⟨payload, hpayload⟩ := Option.isSome_iff_exists.1 h
  obtain ⟨fields, hfields, hrest⟩ := Option.bind_eq_some_iff.1 hpayload
  obtain ⟨errors, herrors, hrest⟩ := Option.bind_eq_some_iff.1 hrest
  obtain ⟨results, hresults, -⟩ := Option.bind_eq_some_iff.1 hrest
  exact ⟨fields, errors, results, hfields, herrors, hresults⟩

theorem isSome_ofErrorsAndResult?_iff (symbol : String) (draw : ℕ) :
    (ofErrorsAndResult? draw symbol document).isSome = true ↔ HasForm .kraken document := by
  have htext (item : Written) : item.text?.isSome = true ↔ ∃ text, item = .text (some text) := by
    rw [Option.isSome_iff_exists]
    cases item <;> simp [Written.text?]
  rw [HasForm, ← Written.isSome_fields?_iff]
  simp only [← isSome_closedTrades?_iff, ← htext, ← Written.isSome_listOf?_iff]
  constructor
  · intro h
    obtain ⟨fields, errors, results, hfields, herrors, hresults⟩ :=
      exists_of_isSome_ofErrorsAndResult? h
    rw [← Written.isSome_fieldOr?_iff [] hfields (by decide) (by simp), herrors,
      ← Written.isSome_fieldOr?_iff [] hfields (by decide) (by simp), hresults, hfields]
    exact ⟨rfl, rfl, rfl⟩
  · rintro ⟨hrecord, herrors, hresults⟩
    obtain ⟨fields, hfields⟩ := Option.isSome_iff_exists.1 hrecord
    rw [← Written.isSome_fieldOr?_iff [] hfields (by decide) (by simp)] at herrors hresults
    obtain ⟨errors, herrors⟩ := Option.isSome_iff_exists.1 herrors
    obtain ⟨results, hresults⟩ := Option.isSome_iff_exists.1 hresults
    exact isSome_ofErrorsAndResult?_of_fields hfields herrors hresults

/-- There are no errors if and only if no failure is reported. -/
theorem errors_eq_nil_iff {fields : List (String × Written)} {errors : List String}
    (hfields : document.fields? ["error", "result"] = some fields)
    (herrors : fieldOr? fields "error" [] (Written.listOf? Written.text?) = some errors) :
    errors = [] ↔ ¬ ReportsFailure .kraken document := by
  rw [Written.fieldOr?_eq_some_iff hfields (by decide) (by simp)] at herrors
  simp only [Written.listOf?_eq_some_iff] at herrors
  obtain ⟨_, hfield, items, rfl, hitems⟩ | ⟨hnone, rfl⟩ := herrors
  · have hnil : errors = [] ↔ items = [] := by
      rw [← List.map_eq_nil_iff (f := some), ← hitems, List.map_eq_nil_iff]
    rw [hnil]
    constructor
    · rintro rfl ⟨error, rest, hother⟩
      cases hfield.unique hfields (by decide) (by simp) hother
    · intro hlisted
      cases items with
      | nil => rfl
      | cons item items => exact absurd ⟨item, items, hfield⟩ hlisted
  · constructor
    · rintro - ⟨error, rest, hfield⟩
      exact hnone _ hfield
    · exact fun _ => rfl

/-- The last result of some name has a price if and only if the price stands in the document. -/
theorem exists_lookup_reverse_iff {fields : List (String × Written)}
    {results : List (String × List PriceField)}
    (hfields : document.fields? ["error", "result"] = some fields)
    (hresults : fieldOr? fields "result" [] closedTrades? = some results) :
    (∃ name rest, results.reverse.lookup name = some (field :: rest)) ↔
    PriceStands .kraken document field := by
  rw [Written.fieldOr?_eq_some_iff hfields (by decide) (by simp)] at hresults
  simp only [closedTrades?_eq_some_iff] at hresults
  constructor
  · rintro ⟨name, rest, hlookup⟩
    obtain ⟨_, hfield, entries, rfl, hentries⟩ | ⟨-, rfl⟩ := hresults
    · obtain ⟨before, entry, after, rfl, hlast, hclosed⟩ :=
        (lookup_reverse_eq_some_iff hentries).1 hlookup
      exact ⟨before, name, entry, after, rest, hfield, hlast, hclosed⟩
    · cases hlookup
  · rintro ⟨before, name, entry, after, rest, hfield, hlast, hclosed⟩
    obtain ⟨_, hother, entries, rfl, hentries⟩ | ⟨hnone, -⟩ := hresults
    · obtain rfl := Written.ofEntries_inj.1 (hfield.unique hfields (by decide) (by simp) hother)
      exact ⟨name, rest,
        (lookup_reverse_eq_some_iff hentries).2 ⟨before, entry, after, rfl, hlast, hclosed⟩⟩
    · exact absurd hfield (hnone _)

theorem HasOneResult.eq_of_mem {fields : List (String × Written)}
    {results : List (String × List PriceField)} {one other : String} (hone : HasOneResult document)
    (hfields : document.fields? ["error", "result"] = some fields)
    (hresults : fieldOr? fields "result" [] closedTrades? = some results)
    (hmem : one ∈ results.map (·.1)) (hother : other ∈ results.map (·.1)) : one = other := by
  rw [Written.fieldOr?_eq_some_iff hfields (by decide) (by simp)] at hresults
  simp only [closedTrades?_eq_some_iff] at hresults
  obtain ⟨_, hfield, entries, rfl, hentries⟩ | ⟨-, rfl⟩ := hresults
  · rw [← map_fst_of_map_closedTrade? hentries] at hmem hother
    obtain ⟨entry, hentry, rfl⟩ := List.mem_map.1 hmem
    obtain ⟨otherEntry, hotherEntry, rfl⟩ := List.mem_map.1 hother
    exact hone entries hfield entry hentry otherEntry hotherEntry
  · cases hmem

theorem ofErrorsAndResult?_eq_price
    (h : ofErrorsAndResult? draw symbol document = some (.price field)) :
    HasForm .kraken document ∧ ¬ ReportsFailure .kraken document ∧
    PriceStands .kraken document field := by
  have hsome : (ofErrorsAndResult? draw symbol document).isSome = true := by simp [h]
  obtain ⟨fields, errors, results, hfields, herrors, hresults⟩ :=
    exists_of_isSome_ofErrorsAndResult? hsome
  rw [ofErrorsAndResult?_eq_price_iff_of_fields hfields herrors hresults] at h
  obtain ⟨hnil, hdrawn⟩ := h
  obtain ⟨drawn, rest, -, hlookup⟩ := drawnHead?_eq_some_iff.1 hdrawn
  exact ⟨(isSome_ofErrorsAndResult?_iff symbol draw).1 hsome,
    (errors_eq_nil_iff hfields herrors).1 hnil,
    (exists_lookup_reverse_iff hfields hresults).1 ⟨drawn.1, rest, hlookup⟩⟩

theorem ofErrorsAndResult?_eq_price_of_hasOneResult (hone : HasOneResult document)
    (hform : HasForm .kraken document) (hlisted : ¬ ReportsFailure .kraken document)
    (hprice : PriceStands .kraken document field) :
    ofErrorsAndResult? draw symbol document = some (.price field) := by
  obtain ⟨fields, errors, results, hfields, herrors, hresults⟩ :=
    exists_of_isSome_ofErrorsAndResult? ((isSome_ofErrorsAndResult?_iff symbol draw).2 hform)
  rw [ofErrorsAndResult?_eq_price_iff_of_fields hfields herrors hresults,
    errors_eq_nil_iff hfields herrors]
  obtain ⟨name, rest, hlookup⟩ := (exists_lookup_reverse_iff hfields hresults).2 hprice
  have hmem : name ∈ results.map (·.1) := by
    obtain ⟨later, earlier, hsplit, -⟩ := List.lookup_eq_some_iff.1 hlookup
    have hresult : (name, field :: rest) ∈ results.reverse := by simp [hsplit]
    exact List.mem_map_of_mem (List.mem_reverse.1 hresult)
  have hplace : draw % results.length < results.length :=
    Nat.mod_lt draw (by simpa using List.length_pos_of_mem hmem)
  -- Whatever is drawn has the one name that there is.
  have hname : results[draw % results.length].1 = name :=
    hone.eq_of_mem hfields hresults (List.mem_map_of_mem (List.getElem_mem hplace)) hmem
  exact ⟨hlisted, drawnHead?_eq_some_iff.2
    ⟨_, rest, List.getElem?_eq_getElem hplace, by rwa [hname]⟩⟩

/-! ### What a document is taken for -/

/-- A document says something if and only if it has the form of its exchange. -/
theorem isSome_payload?_iff (symbol : String) (draw : ℕ) :
    (exchange.payload? symbol draw document).isSome = true ↔ exchange.HasForm document := by
  cases exchange with
  | bitfinex => exact isSome_ofList?_iff
  | cryptocom => exact isSome_ofResult?_iff
  | kraken => exact isSome_ofErrorsAndResult?_iff symbol draw
  | coinbase =>
    simp only [payload?, Option.isSome_iff_exists, ofSpot?_eq_some_iff, HasForm]
    constructor
    · rintro ⟨payload, hrecord, data, field, hfield, hprice, -⟩
      exact ⟨hrecord, data, field, hfield, hprice⟩
    · rintro ⟨hrecord, data, field, hfield, hprice⟩
      exact ⟨_, hrecord, data, field, hfield, hprice, rfl⟩
  | _ =>
    simp only [payload?, Option.isSome_iff_exists, ofNamed?_eq_some_iff, HasForm]
    constructor
    · rintro ⟨payload, field, hprice, -⟩
      exact ⟨field, hprice⟩
    · rintro ⟨field, hprice⟩
      exact ⟨_, field, hprice, rfl⟩

/-- A document is taken for a price only if it has one in its place and reports no failure. -/
theorem payload?_eq_price (h : exchange.payload? symbol draw document = some (.price field)) :
    exchange.HasForm document ∧ ¬ exchange.ReportsFailure document ∧
    exchange.PriceStands document field := by
  cases exchange with
  | bitfinex => exact ofList?_eq_price_iff.1 h
  | cryptocom => exact ofResult?_eq_price_iff.1 h
  | kraken => exact ofErrorsAndResult?_eq_price h
  | coinbase =>
    obtain ⟨hrecord, data, sent, hfield, hprice, hsame⟩ := ofSpot?_eq_some_iff.1 h
    obtain rfl := Payload.price.inj hsame
    exact ⟨⟨hrecord, data, sent, hfield, hprice⟩, not_false, data, hfield, hprice⟩
  | _ =>
    obtain ⟨sent, hprice, hsame⟩ := ofNamed?_eq_some_iff.1 h
    obtain rfl := Payload.price.inj hsame
    exact ⟨⟨sent, hprice⟩, not_false, hprice⟩

-- a code that is not zero keeps the price in the result from being taken
example :
    cryptocom.payload? "BTC_USD" 0 (.ofEntries [("code", .number ⟨false, ['1'], [], none⟩),
      ("result", .ofEntries [("data", .list [.ofEntries [("a", .text (some "64001.5"))]])])]) =
        some .notListed := by
  decide +kernel

/-- And then it is, unless results of several names leave open which one counts. -/
theorem payload?_eq_price_of_hasOneResult (symbol : String) (draw : ℕ)
    (hone : exchange = .kraken → HasOneResult document) (hform : exchange.HasForm document)
    (hlisted : ¬ exchange.ReportsFailure document) (hprice : exchange.PriceStands document field) :
    exchange.payload? symbol draw document = some (.price field) := by
  cases exchange with
  | bitfinex => exact ofList?_eq_price_iff.2 ⟨hform, hlisted, hprice⟩
  | cryptocom => exact ofResult?_eq_price_iff.2 ⟨hform, hlisted, hprice⟩
  | kraken => exact ofErrorsAndResult?_eq_price_of_hasOneResult (hone rfl) hform hlisted hprice
  | coinbase =>
    obtain ⟨data, hfield, hunder⟩ := hprice
    exact ofSpot?_eq_some_iff.2 ⟨hform.1, data, field, hfield, hunder, rfl⟩
  | _ => exact ofNamed?_eq_some_iff.2 ⟨field, hprice, rfl⟩

-- of results with two names either may be the one that counts
example :
    let results := Written.ofEntries [("A", .ofEntries [("c", .list [.text (some "3150")])]),
      ("B", .ofEntries [("c", .list [.text (some "9")])])]
    kraken.payload? "ETHUSD" 0 (.ofEntries [("result", results)]) = some (.price (.text "3150")) ∧
      kraken.payload? "ETHUSD" 1 (.ofEntries [("result", results)]) =
        some (.price (.text "9")) := by
  decide +kernel

end FeeOracle.Exchange
