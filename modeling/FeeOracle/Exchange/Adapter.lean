import FeeOracle.Aggregator.Lookup
import FeeOracle.Configuration.SetupError
import FeeOracle.Exchange.Endpoint
import FeeOracle.Exchange.Payload

/-!
# Adapters

An adapter asks one exchange for prices: it sends the request for a pair and makes sense of what is
delivered. Every error names its exchange, and an answer that arrives never counts as late.
-/

namespace FeeOracle

/-- An exchange that is set up to be asked. -/
structure Adapter where
  exchange : Exchange
  address : String
  apiKey : Option String
deriving DecidableEq, Repr

namespace Adapter

/-- Sets up an exchange as configured. Only a key that is sent along has to be usable. -/
def ofSettings (settings : SourceSettings) : Except SetupError Adapter :=
  let address := settings.baseUrl.getD settings.exchange.defaultUrl
  let apiKey := if settings.exchange.takesKey then settings.apiKey else none
  if (apiKey.map isHeaderValue).getD true then
    .ok { exchange := settings.exchange, address, apiKey }
  else .error .unusableKey

/-- The name of the exchange, which is that of the source. -/
def name (adapter : Adapter) : String := adapter.exchange.name

/-- The request for the price of a pair. -/
def request? (adapter : Adapter) (base quote : String) : Option Http.Request :=
  adapter.exchange.request? adapter.address adapter.apiKey base quote

/-- Does the body of a reply that tells of no success say that the pair is not listed? -/
def bodyReportsError (exchange : Exchange) (body : String) : Bool :=
  exchange = .bitfinex &&
    match Json.decode Exchange.Payload.data? body with
    | .ok items => Exchange.Payload.reportsError items
    | .error _ => false

/-- The error of a document that was not fetched. -/
def errorOf (exchange : Exchange) (base quote : String) : Http.FetchError → SourceError
  | .lost detail => .http exchange.name detail
  | .status code body =>
    if bodyReportsError exchange body then .unknownTicker exchange.name base quote
    else SourceError.notListedOnClientError base quote (.status exchange.name code body)
  | .undecodable error => .malformed exchange.name error.message

/-- The price in what was fetched. -/
def priceOf (exchange : Exchange) (base quote : String)
    (fetched : Except Http.FetchError Exchange.Payload) : Except SourceError Double :=
  match fetched with
  | .ok (.price field) => field.price exchange.name
  | .ok .notListed => .error (.unknownTicker exchange.name base quote)
  | .ok (.faulty detail) => .error (.malformed exchange.name detail)
  | .error error => .error (errorOf exchange base quote error)

/-- Asks for the price of a pair. -/
def price (network : Http.Network) (adapter : Adapter) (base quote : String) :
    Except SourceError Double :=
  priceOf adapter.exchange base quote
    (Http.fetch network (adapter.request? base quote)
      (adapter.exchange.payload? (adapter.exchange.symbol base quote)))

/-- The adapter as a source of prices over a network that answers without delay. -/
def toSource (network : Http.Network) (adapter : Adapter) : Source where
  name := adapter.name
  respond pair := { delay := some 0, outcome := adapter.price network pair.base pair.quote }

end Adapter

/-- Sets up all exchanges as configured, or none if one cannot be set up. -/
def ExchangeSettings.adapters (settings : ExchangeSettings) : Except SetupError (List Adapter) :=
  settings.sources.mapM Adapter.ofSettings

/-- The log line about the exchanges that were set up. -/
def adaptersLine (adapters : List Adapter) : LogLine :=
  let names := ", ".intercalate (adapters.map (·.name))
  { level := .info, message := s!"Configured {adapters.length} price source(s): [{names}]" }

/-- The aggregator over the exchanges as configured. -/
def ExchangeSettings.aggregator (network : Http.Network) (settings : ExchangeSettings) :
    Except SetupError Aggregator :=
  settings.adapters.map fun adapters =>
    { sources := adapters.map (·.toSource network), timeout := settings.timeoutSeconds * 1000 }

end FeeOracle
