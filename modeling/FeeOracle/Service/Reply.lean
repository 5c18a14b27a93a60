import FeeOracle.Denomination.Rows
import FeeOracle.Json.Printer
import FeeOracle.Service.Route

/-!
# Replies

What the service answers: the price of a pair with the report of every source, the rows, or an
error. A price is there even if there is no quote, and then it is the number that stands for a
missing one.
-/

namespace FeeOracle.Service

/-- What the service sends back. -/
structure Reply where
  status : Nat
  contentType : Option String
  body : String
deriving DecidableEq, Repr

/-- A reply without contents. -/
def Reply.empty (status : Nat) : Reply := { status, contentType := none, body := "" }

/-- A reply that is a text. -/
def Reply.ofText (status : Nat) (text : String) : Reply :=
  { status, contentType := some "text/plain; charset=utf-8", body := text }

/-- A reply that is a document. -/
def Reply.ofDatum (status : Nat) (datum : Datum) : Reply :=
  { status, contentType := some "application/json", body := Json.compact datum }

/-- A reply that tells what went wrong. -/
def Reply.ofError (status : Nat) (message : String) : Reply :=
  .ofDatum status (.table [("error", .text message)])

/-- What comes of a request: the reply, the pairs that the sources were asked for, whether the gas
    price was read, and the log lines. -/
structure Outcome where
  reply : Reply
  asked : List TickerPair := []
  readsGas : Bool := false
  lines : List LogLine := []

/-- The report of a source with a price. -/
def readingDatum (reading : Reading) : Datum :=
  .table [("source", .text reading.source), ("price", .double reading.price)]

/-- The report of a source without one. -/
def failureDatum (failure : Failure) : Datum :=
  .table [("source", .text failure.source), ("error", .text failure.error.message)]

/-- The reports of all sources, those with a price first. -/
def sourceReports (readings : Readings) : List Datum :=
  readings.successes.map readingDatum ++ readings.failures.map failureDatum

/-- The document about a pair: its quote, or the number that stands for a missing one, and what came
    of each source. -/
def priceDatum (pair : TickerPair) (readings : Readings) : Datum :=
  .table [("base", .text pair.base), ("quote", .text pair.quote),
    ("price", .double (priceOrMissing (readings.quote pair))),
    ("sources", .list (sourceReports readings))]

/-- The answer for a pair from its readings. -/
def priceOfReadings (pair : TickerPair) (readings : Readings) : Outcome :=
  let (status, noQuote) : Nat × List LogLine := match readings.quote pair with
    | .ok _ => (200, [])
    | .error error => (503, [{ level := .warn, message := s!"🚫 {error.message}" }])
  { reply := .ofDatum status (priceDatum pair readings)
    asked := [pair]
    lines := readings.failureWarnings pair ++ readings.quoteWarnings pair ++ noQuote }

/-- What comes of a request for the price of a pair. -/
def pricePair (aggregator : Aggregator) (pair : TickerPair) : Outcome :=
  priceOfReadings pair (aggregator.readings pair)

/-- Answers for two tickers. A blank one is refused, and no source is asked. -/
def price (aggregator : Aggregator) (base quote : String) : Outcome :=
  match TickerPair.of base quote with
  | .ok pair => pricePair aggregator pair
  | .error error => { reply := .ofError 400 error.message }

/-- The refusal of a parameter that is no text. -/
def invalidParameter (name : String) : Reply :=
  .ofText 400 s!"Invalid URL: Invalid UTF-8 in \x60{name}\x60"

/-- Answers for the two parameters of a path. -/
def priceOfParameters (aggregator : Aggregator) (base quote : List Char) : Outcome :=
  match parameter? base, parameter? quote with
  | some base, some quote => price aggregator base quote
  | none, _ => { reply := invalidParameter "base" }
  | _, none => { reply := invalidParameter "quote" }

/-- The rows as data. -/
def rowsDatum (rows : List Denomination.Row) : Datum :=
  .list (rows.map fun row => .table [("base", .text row.base), ("denomination", .text row.amount)])

/-- What comes of a request for the rows: they are sent, or the gas price could not be read. -/
def denominated (aggregator : Aggregator) (settings : GasSettings)
    (gas : Except GasError GasTiers) : Outcome :=
  let report := Denomination.report aggregator settings gas
  let reply := match report.rows with
    | .ok rows => Reply.ofDatum 200 (rowsDatum rows)
    | .error error => Reply.ofError 503 error.message
  { reply, asked := report.asked, readsGas := true, lines := report.lines }

/-- Answers a request; `gas` is what comes of reading the gas price, should it be read. -/
def answer (aggregator : Aggregator) (settings : GasSettings) (gas : Except GasError GasTiers)
    (request : Request) : Outcome :=
  match Route.ofPath? request.path with
  | none => { reply := .empty 404 }
  | some route =>
    if !request.reads then { reply := .empty 405 }
    else
      let outcome := match route with
        | .health => { reply := .ofText 200 "OK" }
        | .price base quote => priceOfParameters aggregator base quote
        | .denominated => denominated aggregator settings gas
      if request.isHead then { outcome with reply := { outcome.reply with body := "" } }
        else outcome

end FeeOracle.Service
