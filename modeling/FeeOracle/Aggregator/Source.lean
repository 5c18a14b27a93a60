import FeeOracle.Aggregator.SourceError
import FeeOracle.Ticker

/-!
# Price sources

A source has a name and responds to a pair of tickers: after a delay, or never, and with a price or
an error. Times are in milliseconds.
-/

namespace FeeOracle

/-- What a source does when it is asked. Without a delay it never responds. -/
structure Response where
  delay : Option Nat
  outcome : Except SourceError Double

/-- Is the response there by the deadline? -/
def Response.inTime (response : Response) (timeout : Nat) : Bool :=
  match response.delay with
  | some delay => delay ≤ timeout
  | none => false

/-- The time spent on waiting for the response. -/
def Response.waited (response : Response) (timeout : Nat) : Nat :=
  match response.delay with
  | some delay => min delay timeout
  | none => timeout

/-- A source of prices: its name, and how it responds when it is asked for a pair. -/
structure Source where
  name : String
  respond : TickerPair → Response

/-- The answer that counts: the source's own, if it is in time and its price is usable. -/
def Source.answer (source : Source) (timeout : Nat) (pair : TickerPair) :
    Except SourceError Double :=
  let response := source.respond pair
  if response.inTime timeout then
    match response.outcome with
    | .ok price => validatePrice source.name price
    | .error error => .error error
  else .error (.timeout source.name)

/-- Every price that counts is usable. -/
theorem Source.answer_usable {source : Source} {timeout : Nat} {pair : TickerPair} {price : Double}
    (h : source.answer timeout pair = .ok price) : isUsablePrice price = true := by
  simp only [Source.answer] at h
  split at h
  · split at h
    · obtain ⟨husable, rfl⟩ := validatePrice_eq_ok_iff.1 h
      exact husable
    · cases h
  · cases h

end FeeOracle
