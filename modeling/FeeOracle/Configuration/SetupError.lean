import FeeOracle.Configuration.Basic

/-!
# Setting up what is configured

A configuration may be sound in itself and still name something that cannot be set up.
-/

namespace FeeOracle

/-- Why something that is configured cannot be set up. -/
inductive SetupError
  | unusableKey
  | missingUrl (kind : ProviderKind)
deriving DecidableEq, Repr

/-- The text of the error. -/
def SetupError.message : SetupError → String
  | unusableKey => "API key is not a valid header value"
  | missingUrl kind => s!"gas provider {kind.title} requires a url"

/-- Can the text be sent as the value of a header? Controls other than the tab cannot. -/
def isHeaderValue (text : String) : Bool :=
  text.toList.all fun c => c = '\t' || (0x20 ≤ c.toNat && c.toNat != 0x7F)

end FeeOracle
