import FeeOracle.Double.Order
import FeeOracle.Double.Text

/-!
# Errors of price sources

Why one source gave no usable price. Every error names the exchange it is about.
-/

namespace FeeOracle

/-- Why a source gave no usable price. -/
inductive SourceError
  | unknownTicker (exchange base quote : String)
  | http (exchange detail : String)
  | status (exchange : String) (code : Nat) (body : String)
  | malformed (exchange detail : String)
  | invalidPrice (exchange : String) (price : Double)
  | timeout (exchange : String)
deriving DecidableEq, Repr

namespace SourceError

/-- The exchange that the error is about. -/
def exchange : SourceError → String
  | unknownTicker exchange _ _ => exchange
  | http exchange _ => exchange
  | status exchange _ _ => exchange
  | malformed exchange _ => exchange
  | invalidPrice exchange _ => exchange
  | timeout exchange => exchange

/-- The text of the error, which names the exchange. -/
def message : SourceError → String
  | unknownTicker exchange base quote => s!"{exchange} does not list {base}/{quote}"
  | http exchange detail => s!"request to {exchange} failed: {detail}"
  | status exchange code body => s!"{exchange} returned status {code}: {body}"
  | malformed exchange detail => s!"malformed response from {exchange}: {detail}"
  | invalidPrice exchange price => s!"{exchange} returned invalid price {price}"
  | timeout exchange => s!"{exchange} did not answer before the deadline"

/-- Did the source fail to answer in time? -/
def isTimeout : SourceError → Bool
  | timeout _ => true
  | _ => false

/-- The error for a reply with a status that tells of the client's fault: the exchange does not list
    the pair. -/
def notListedOnClientError (base quote : String) : SourceError → SourceError
  | status exchange code body =>
    if code = 400 ∨ code = 404 then unknownTicker exchange base quote else status exchange code body
  | other => other

end SourceError

/-- A price is usable if it is finite and greater than zero. -/
def isUsablePrice (price : Double) : Bool := price.isFinite && Double.lt 0 price

/-- The price, if it is usable. -/
def validatePrice (exchange : String) (price : Double) : Except SourceError Double :=
  if isUsablePrice price then .ok price else .error (.invalidPrice exchange price)

theorem validatePrice_eq_ok_iff {exchange : String} {price result : Double} :
    validatePrice exchange price = .ok result ↔ isUsablePrice price = true ∧ price = result := by
  unfold validatePrice
  split <;> simp_all

end FeeOracle
