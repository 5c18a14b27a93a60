import FeeOracle.Http.Percent

/-!
# Routes

What a request to the service asks for. The last parameter of a path may not be empty; the query of
a request is ignored. A parameter that is no text once its escapes are undone is refused, and so is
every method but those that read.
-/

namespace FeeOracle.Service

/-- What can be asked of the service. -/
inductive Route
  | health
  | price (base quote : List Char)
  | denominated
deriving DecidableEq, Repr

/-- The route of a path, with its parameters as written. -/
def Route.ofPath? (path : List Char) : Option Route :=
  match (path.splitOn '/').map String.ofList with
  | ["", "health"] => some health
  | ["", "gas", "denominated"] => some denominated
  | ["", "price", base, quote] =>
    if quote.isEmpty then none else some (price base.toList quote.toList)
  | _ => none

/-- A request: its method, and the address that follows that of the service. -/
structure Request where
  method : String
  target : String
deriving DecidableEq, Repr

/-- The path, which ends at a question mark or a number sign. -/
def Request.path (request : Request) : List Char :=
  request.target.toList.takeWhile fun c => c ≠ '?' ∧ c ≠ '#'

/-- Does the request ask for a reply without its body? -/
def Request.isHead (request : Request) : Bool := request.method == "HEAD"

/-- Does the request only read? -/
def Request.reads (request : Request) : Bool := request.method == "GET" || request.isHead

/-- The value of a parameter, if its bytes are a text. -/
def parameter? (written : List Char) : Option String :=
  Text.decodeUtf8? (Http.percentDecode written)

example : Route.ofPath? "/price//usd".toList = some (.price [] ['u', 's', 'd']) := by decide +kernel
example : Route.ofPath? "/price/eth/".toList = none := by decide +kernel

end FeeOracle.Service
