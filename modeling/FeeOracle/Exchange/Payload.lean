import FeeOracle.Exchange.Basic
import FeeOracle.Exchange.PriceField
import FeeOracle.Json.Printer

/-!
# Payloads

What the document that an exchange sends says about a pair: a price, that the pair is not listed, or
something that makes no sense. Each exchange has its own form of document; one of another form says
nothing at all.
-/

namespace FeeOracle.Exchange

open Json (Written field? fieldOr?)

/-- What a document says about a pair. -/
inductive Payload
  | price (field : PriceField)
  | notListed
  | faulty (detail : String)
deriving DecidableEq, Repr

namespace Payload

/-- A table with the price under a name. -/
def ofNamed? (name : String) (document : Written) : Option Payload := do
  let fields ← document.fields? [name]
  let sent ← field? fields name PriceField.ofWritten?
  some (.price sent)

/-- A table with the amount in an inner table. -/
def ofSpot? (document : Written) : Option Payload := do
  let fields ← document.fields? ["data"]
  field? fields "data" (ofNamed? "amount")

/-- The items of a list as data. -/
def data? : Written → Option (List Datum)
  | .list items => Json.itemsDatum? (Json.maxDepth - 1) items
  | _ => none

/-- Does the list report an error? -/
def reportsError (items : List Datum) : Bool :=
  (items.head?.bind Datum.text?) == some "error"

/-- Where the last price stands in a list. -/
def lastPriceIndex : Nat := 6

/-- A list with the last price at a fixed place. -/
def ofList? (document : Written) : Option Payload := do
  let items ← data? document
  if items.isEmpty ∨ reportsError items then some .notListed
  else
    match (items[lastPriceIndex]?).bind Datum.double? with
    | some last => some (.price (.number last))
    | none => some (.faulty s!"ticker has no LAST_PRICE field: {Json.labelledList items}")

/-- The latest trade price of each entry of a result. -/
def tradePrices? (document : Written) : Option (List PriceField) := do
  let fields ← document.fields? ["data"]
  fieldOr? fields "data" [] fun data => data.listOf? fun entry => do
    let fields ← entry.fields? ["a"]
    field? fields "a" PriceField.ofWritten?

/-- A table with a code, and a result unless that tells of a failure. -/
def ofResult? (document : Written) : Option Payload := do
  let fields ← document.fields? ["code", "result"]
  let code ← field? fields "code" Written.integer?
  let result ← fieldOr? fields "result" none (Written.optional? tradePrices?)
  match result with
  | some (latest :: _) => some (if code = 0 then .price latest else .notListed)
  | _ => some .notListed

/-- Does the text contain the phrase? -/
def mentions (phrase text : String) : Bool := (text.splitOn phrase).length > 1

/-- The prices of the last closed trade of each entry of a table. Of entries with the same name the
    last one counts. -/
def closedTrades? (document : Written) : Option (List (String × List PriceField)) := do
  let entries ← document.entries?
  entries.mapM fun (name, entry) => do
    let fields ← entry.fields? ["c"]
    let prices ← field? fields "c" (Written.listOf? PriceField.ofWritten?)
    some (name, prices)

/-- What counts among lists under names that keep no order: the first item of the list that is
    drawn. -/
def drawnHead? {α : Type} (draw : Nat) (lists : List (String × List α)) : Option α := do
  let (name, _) ← lists[draw % lists.length]?
  let items ← lists.reverse.lookup name
  items.head?

/-- A table with the errors, and the results under names of the exchange's own. The results keep no
    order. -/
def ofErrorsAndResult? (draw : Nat) (symbol : String) (document : Written) : Option Payload := do
  let fields ← document.fields? ["error", "result"]
  let errors ← fieldOr? fields "error" [] (Written.listOf? Written.text?)
  let results ← fieldOr? fields "result" [] closedTrades?
  if !errors.isEmpty then
    some (if errors.any (mentions "Unknown asset pair") then .notListed
      else .faulty ("; ".intercalate errors))
  else
    match drawnHead? draw results with
    | some closed => some (.price closed)
    | none => some (.faulty s!"no ticker data for {symbol}")

end Payload

/-- What a document of an exchange says about the pair with a symbol, given the draw for tables
    without order. -/
def payload? (exchange : Exchange) (symbol : String) (draw : Nat) : Written → Option Payload :=
  match exchange with
  | binance => Payload.ofNamed? "price"
  | bitfinex => Payload.ofList?
  | coinbase => Payload.ofSpot?
  | cryptocom => Payload.ofResult?
  | gemini => Payload.ofNamed? "last"
  | kraken => Payload.ofErrorsAndResult? draw symbol

end FeeOracle.Exchange
