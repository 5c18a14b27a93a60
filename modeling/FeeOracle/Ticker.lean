import FeeOracle.Text.Blank
import FeeOracle.Text.Uppercase

/-!
# Tickers

A ticker names an asset. It is compared in its normal form: without blanks around it and in upper
case. A pair of tickers asks for the price of its base, expressed in its quote.
-/

namespace FeeOracle

/-- Why a ticker is refused. -/
inductive TickerError
  | blank
deriving DecidableEq, Repr

/-- The text of the error. -/
def TickerError.message : TickerError → String
  | blank => "invalid ticker: ticker symbol must not be empty"

/-- The normal form of a ticker. A blank one has none. -/
def normalizeTicker (ticker : String) : Except TickerError String :=
  let trimmed := Text.trim ticker
  if trimmed.isEmpty then .error .blank else .ok (Text.uppercase trimmed)

/-- The asset that is priced, and the one that its price is in. -/
structure TickerPair where
  base : String
  quote : String
deriving DecidableEq, Repr

/-- The pair of the normal forms of two tickers. -/
def TickerPair.of (base quote : String) : Except TickerError TickerPair := do
  let base ← normalizeTicker base
  let quote ← normalizeTicker quote
  .ok { base, quote }

/-- The pair as it is written in messages. -/
def TickerPair.text (pair : TickerPair) : String := pair.base ++ "/" ++ pair.quote

instance : ToString TickerPair := ⟨TickerPair.text⟩

example : (TickerPair.of " egld " "usd").toOption.map TickerPair.text = some "EGLD/USD" := by
  decide +kernel

end FeeOracle
