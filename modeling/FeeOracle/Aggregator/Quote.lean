import FeeOracle.Consensus.Median
import FeeOracle.Consensus.Outliers
import FeeOracle.Log

/-!
# Quotes

A quote is the median of the readings for a pair. Without any reading there is no quote.
-/

namespace FeeOracle

/-- There is no quote: the pair, and why every source failed. -/
structure NoQuote where
  pair : TickerPair
  errors : List Failure
deriving DecidableEq, Repr

/-- The text of the report; it counts the failures and does not list them. -/
def NoQuote.message (error : NoQuote) : String :=
  s!"no quote available for {error.pair} ({error.errors.length} source(s) failed)"

/-- The number that stands for a missing quote where a number has to be given. -/
def missingPrice : Double := -1

/-- The quote, or the number that stands for a missing one. -/
def priceOrMissing (quote : Except NoQuote Double) : Double :=
  match quote with
  | .ok price => price
  | .error _ => missingPrice

/-- The median of the prices that count; without one, the failures are the reason. -/
def Readings.quote (readings : Readings) (pair : TickerPair) : Except NoQuote Double :=
  match Consensus.median? (readings.successes.map (·.price)) with
  | some median => .ok median
  | none => .error { pair, errors := readings.failures }

/-- The warning about each source that failed. -/
def Readings.failureWarnings (readings : Readings) (pair : TickerPair) : List LogLine :=
  readings.failures.map fun failure =>
    { level := .warn, message := s!"❌ {failure.source} failed for {pair}: {failure.error.message}" }

/-- The warning about sources far from the quote, if there are any. -/
def Readings.outlierWarnings (readings : Readings) (pair : TickerPair) (median : Double) :
    List LogLine :=
  let sources := Consensus.outliers readings.successes median Consensus.reportedDeviation
  if sources.isEmpty then []
  else
    let names := ", ".intercalate sources
    [{ level := .warn,
       message :=
         s!"⚠️  {names} deviates more than {Consensus.reportedPercent}% " ++
           s!"from the {pair} median {median}" }]

/-- The warnings that finding the quote gives rise to. -/
def Readings.quoteWarnings (readings : Readings) (pair : TickerPair) : List LogLine :=
  match readings.quote pair with
  | .ok median => readings.outlierWarnings pair median
  | .error _ => []

end FeeOracle
