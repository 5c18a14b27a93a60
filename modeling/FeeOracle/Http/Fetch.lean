import FeeOracle.Http.Message
import FeeOracle.Json.Decode

/-!
# Fetching documents

A document is fetched by a request, and what can go wrong is one of three things: nothing arrives,
the reply does not tell of success, or its body is not the document expected.
-/

namespace FeeOracle.Http

/-- Why no document was fetched. -/
inductive FetchError
  | lost (detail : String)
  | status (code : Nat) (body : String)
  | undecodable (error : Json.DecodeError)
deriving DecidableEq, Repr

/-- The document in a reply. What is read of it may depend on the draw of the reply. -/
def Reply.decode {α : Type} (ofWritten? : Nat → Json.Written → Option α) (reply : Reply) :
    Except FetchError α :=
  if reply.isSuccess then
    match Json.decode (ofWritten? reply.draw) reply.text with
    | .ok value => .ok value
    | .error error => .error (.undecodable error)
  else .error (.status reply.status reply.text)

/-- The document in what was delivered. -/
def Delivery.decode {α : Type} (ofWritten? : Nat → Json.Written → Option α) :
    Delivery → Except FetchError α
  | lost detail => .error (.lost detail)
  | arrived reply => reply.decode ofWritten?

/-- A request to an address with names and values added to its query; none if it is no address. -/
def request? (address : String) (pairs : List (String × String)) (apiKey : Option String) :
    Option Request :=
  (Url.parse? address).map fun url => { url := url.withPairs pairs, apiKey }

/-- Fetches a document. What is not an address is never asked. -/
def fetch {α : Type} (network : Network) (request : Option Request)
    (ofWritten? : Nat → Json.Written → Option α) : Except FetchError α :=
  match request with
  | none => .error (.lost "builder error")
  | some request => (network request).decode ofWritten?

end FeeOracle.Http
