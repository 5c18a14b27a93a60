import FeeOracle.Aggregator.Quote
import FeeOracle.Power

/-!
# Lookups

An aggregator asks all its sources for a pair at once and waits for each until one common deadline.
A lookup is all that comes of it: the readings, the quote, the warnings, and when the sources kept
it waiting.
-/

namespace FeeOracle

/-- The sources that are asked, and how long they are waited for. -/
structure Aggregator where
  sources : List Source
  timeout : Nat

namespace Aggregator

/-- The answer of every source that counts. -/
def answers (aggregator : Aggregator) (pair : TickerPair) : Answers :=
  aggregator.sources.map fun source => (source.name, source.answer aggregator.timeout pair)

/-- What comes of a lookup: the prices that count and the failures, each in the order in which the
    sources are configured. -/
def readings (aggregator : Aggregator) (pair : TickerPair) : Readings :=
  let answers := aggregator.answers pair
  { successes := answers.successes pair, failures := answers.failures }

/-- The quote that a lookup brings, or why there is none. -/
def quote (aggregator : Aggregator) (pair : TickerPair) : Except NoQuote Double :=
  (aggregator.readings pair).quote pair

/-- How long each source is waited for. -/
def waits (aggregator : Aggregator) (pair : TickerPair) : List Nat :=
  aggregator.sources.map fun source => (source.respond pair).waited aggregator.timeout

/-- How long the lookup of a pair takes. -/
def duration (aggregator : Aggregator) (pair : TickerPair) : Nat :=
  (aggregator.waits pair).foldl max 0

/-- The warnings that the lookup of a pair gives rise to. -/
def warnings (aggregator : Aggregator) (pair : TickerPair) : List LogLine :=
  let readings := aggregator.readings pair
  readings.failureWarnings pair ++ readings.quoteWarnings pair

/-- The time, in milliseconds, at which clocks end. -/
def clockEnd : Nat := 2 ^ (63 : Nat) * 1000

/-- The deadline of a lookup that starts at a given time. None lies beyond the end of clocks. -/
def deadline? (aggregator : Aggregator) (now : Nat) : Option Nat :=
  if now + aggregator.timeout < clockEnd then some (now + aggregator.timeout) else none

/-- The readings for a pair, asked for at a given time; none if there is no deadline. -/
def readingsAt? (aggregator : Aggregator) (now : Nat) (pair : TickerPair) : Option Readings :=
  (aggregator.deadline? now).map fun _ => aggregator.readings pair

end Aggregator
end FeeOracle
