import FeeOracle.Exchange.Symbol
import FeeOracle.Http.Fetch

/-!
# Endpoints

Where each exchange is asked for a price. Some take the symbol in the path of the address, others in
its query.
-/

namespace FeeOracle.Exchange

/-- The address without the slashes at its end. -/
def trimBaseUrl (address : String) : String :=
  String.ofList ((address.toList.reverse.dropWhile (· = '/')).reverse)

/-- The path in front of a symbol, and behind it if the symbol is part of the path. -/
def path (exchange : Exchange) (symbol : String) : String :=
  match exchange with
  | binance => "/api/v3/ticker/price"
  | bitfinex => "/v2/ticker/" ++ symbol
  | coinbase => "/v2/prices/" ++ symbol ++ "/spot"
  | cryptocom => "/v2/public/get-ticker"
  | gemini => "/v1/pubticker/" ++ symbol
  | kraken => "/0/public/Ticker"

/-- The name under which the symbol is asked for, where it is asked for in a query. -/
def queryName? : Exchange → Option String
  | binance => some "symbol"
  | cryptocom => some "instrument_name"
  | kraken => some "pair"
  | _ => none

/-- The request for the price of a pair, if there is an address to send it to. -/
def request? (exchange : Exchange) (address : String) (apiKey : Option String)
    (base quote : String) : Option Http.Request :=
  let symbol := exchange.symbol base quote
  let pairs := (exchange.queryName?.map fun name => (name, symbol)).toList
  Http.request? (trimBaseUrl address ++ exchange.path symbol) pairs apiKey

end FeeOracle.Exchange
