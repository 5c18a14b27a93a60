/-!
# Exchanges

The exchanges that can be asked for prices.
-/

namespace FeeOracle

/-- An exchange. -/
inductive Exchange
  | binance
  | bitfinex
  | coinbase
  | cryptocom
  | gemini
  | kraken
deriving DecidableEq, Repr

namespace Exchange

/-- All exchanges. -/
def all : List Exchange := [binance, bitfinex, coinbase, cryptocom, gemini, kraken]

/-- The name in a configuration and in messages. -/
def name : Exchange → String
  | binance => "binance"
  | bitfinex => "bitfinex"
  | coinbase => "coinbase"
  | cryptocom => "cryptocom"
  | gemini => "gemini"
  | kraken => "kraken"

/-- The exchange of a name. -/
def ofName? (name : String) : Option Exchange := all.find? (·.name == name)

/-- Does the exchange take a key along with a request? -/
def takesKey : Exchange → Bool
  | binance => true
  | _ => false

/-- The address of the exchange where none is configured. -/
def defaultUrl : Exchange → String
  | binance => "https://api.binance.com"
  | bitfinex => "https://api-pub.bitfinex.com"
  | coinbase => "https://api.coinbase.com"
  | cryptocom => "https://api.crypto.com"
  | gemini => "https://api.gemini.com"
  | kraken => "https://api.kraken.com"

theorem mem_all (exchange : Exchange) : exchange ∈ all := by
  cases exchange <;> decide

theorem ofName?_name (exchange : Exchange) : ofName? exchange.name = some exchange := by
  cases exchange <;> decide

end Exchange
end FeeOracle
