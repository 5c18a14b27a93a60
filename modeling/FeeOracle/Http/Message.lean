import FeeOracle.Http.MediaType
import FeeOracle.Http.Url
import FeeOracle.Text.Charset

/-!
# Requests and replies

Every request asks for a document at an address. What comes of it is a complete reply or nothing. A
network is all that is known about the outside world: what it delivers for each request, and every
choice that is made on the way and that nothing here determines.
-/

namespace FeeOracle.Http

/-- The name under which requests are sent. -/
def userAgent : String := "price-oracle/0.1"

/-- A request for the document at an address, and the key sent along. -/
structure Request where
  url : Url
  apiKey : Option String := none
deriving DecidableEq, Repr

/-- A reply as it arrives. -/
structure Reply where
  status : Nat
  contentType : Option String
  body : List UInt8
  /-- The text of the body if it is in an encoding other than those of `Text.Charset`. -/
  foreignText : Option String := none
  /-- Which entry comes first in a table that is read from the body and keeps no order. -/
  draw : Nat := 0
deriving DecidableEq, Repr

/-- What comes of a request. -/
inductive Delivery
  | lost (detail : String)
  | arrived (reply : Reply)
deriving DecidableEq, Repr

/-- What is delivered for each request. -/
abbrev Network := Request → Delivery

/-- The network that delivers nothing. -/
def Network.offline : Network :=
  fun request => .lost s!"error sending request for url ({request.url.text})"

/-- Does the status tell of success? -/
def Reply.isSuccess (reply : Reply) : Bool := 200 ≤ reply.status && reply.status < 300

/-- The encoding of the body: the one that the content type names, if it is known. -/
def Reply.charset (reply : Reply) : Text.Charset :=
  ((reply.contentType.bind (parameter? "charset")).bind Text.Charset.ofName?).getD .utf8

/-- The text of the body. -/
def Reply.text (reply : Reply) : String :=
  reply.foreignText.getD (reply.charset.decode reply.body)

end FeeOracle.Http
