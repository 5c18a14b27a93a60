import FeeOracle.Aggregator.Round
import FeeOracle.Service.Reply

/-!
# Prices as they come

A request for a price is answered when the lookup of its pair has come to its end. What is refused
is refused at once: no lookup begins for it.
-/

namespace FeeOracle.Service

/-- The answer for two tickers, asked for at a given time, if some turns see the lookup to its
    end. -/
def priceAfter? (aggregator : Aggregator) (now : Nat) (turns : List Turn) (base quote : String) :
    Option Outcome :=
  match TickerPair.of base quote with
  | .ok pair => (aggregator.readingsAfter? now pair turns).map (priceOfReadings pair)
  | .error error => some { reply := .ofError 400 error.message }

/-- The answer for the two parameters of a path. -/
def priceOfParametersAfter? (aggregator : Aggregator) (now : Nat) (turns : List Turn)
    (base quote : List Char) : Option Outcome :=
  match parameter? base, parameter? quote with
  | some base, some quote => priceAfter? aggregator now turns base quote
  | none, _ => some { reply := invalidParameter "base" }
  | _, none => some { reply := invalidParameter "quote" }

end FeeOracle.Service
