import FeeOracle.Exchange.Basic
import FeeOracle.Text.Lowercase

/-!
# Symbols

What each exchange calls a pair of tickers.
-/

namespace FeeOracle.Exchange

/-- The quote at an exchange without a market in dollars: the coin that stands for them. -/
def dollarCoin (quote : String) : String := if quote = "USD" then "USDT" else quote

/-- The code of an asset at an exchange that keeps to the international form. -/
def assetCode (ticker : String) : String := if ticker = "BTC" then "XBT" else ticker

/-- What an exchange calls a pair. Tickers of more than three bytes need a separator at some. -/
def symbol (exchange : Exchange) (base quote : String) : String :=
  match exchange with
  | binance => base ++ dollarCoin quote
  | bitfinex =>
    if base.utf8ByteSize > 3 ∨ quote.utf8ByteSize > 3 then "t" ++ base ++ ":" ++ quote
    else "t" ++ base ++ quote
  | coinbase => base ++ "-" ++ quote
  | cryptocom => base ++ "_" ++ quote
  | gemini => Text.lowercase (base ++ quote)
  | kraken => assetCode base ++ assetCode quote

example : symbol .bitfinex "EGLD" "USD" = "tEGLD:USD" := by decide +kernel
example : symbol .kraken "BTC" "USD" = "XBTUSD" := by decide +kernel

end FeeOracle.Exchange
