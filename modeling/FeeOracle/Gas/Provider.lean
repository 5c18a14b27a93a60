import FeeOracle.Configuration.SetupError
import FeeOracle.Gas.Payload
import FeeOracle.Http.Fetch
import FeeOracle.Log

/-!
# Gas price providers

A provider is asked for the tiers of the gas price. The fixed one answers with the tiers it was
configured with, the others ask a service.
-/

namespace FeeOracle

/-- A gas price provider that is set up to be asked. -/
inductive GasProvider
  | fixed (tiers : GasTiers)
  | tenths (address : String) (apiKey : Option String)
  | status (address : String) (apiKey : Option String)
deriving DecidableEq, Repr

namespace GasProvider

/-- The address of a service, which has to be there. -/
def requiredUrl (settings : ProviderSettings) : Except SetupError String :=
  match settings.url with
  | some url => if url.isEmpty then .error (.missingUrl settings.kind) else .ok url
  | none => .error (.missingUrl settings.kind)

/-- Sets up the provider as configured. -/
def ofSettings (settings : ProviderSettings) : Except SetupError GasProvider :=
  match settings.kind with
  | .fixed => .ok (fixed settings.fixed)
  | .ethGasStation => (requiredUrl settings).map fun address => tenths address settings.apiKey
  | .etherscan => (requiredUrl settings).map fun address => status address settings.apiKey

/-- The log line about the provider that was set up. -/
def setupLine (kind : ProviderKind) : LogLine :=
  { level := .info, message := s!"Using {kind.title} gas price provider" }

/-- What is asked of a service along with its address; nothing is asked of the fixed provider. -/
def question? : GasProvider → Option (String × List (String × String))
  | fixed _ => none
  | tenths address apiKey => some (address, (apiKey.map fun key => ("api-key", key)).toList)
  | status address apiKey =>
    some (address, [("module", "gastracker"), ("action", "gasoracle")] ++
      (apiKey.map fun key => ("apikey", key)).toList)

/-- The request to a service, if there is an address to send it to. -/
def request? (provider : GasProvider) : Option Http.Request :=
  provider.question?.bind fun (address, pairs) => Http.request? address pairs none

/-- The error of a document that was not fetched. -/
def errorOf : Http.FetchError → GasError
  | .lost detail => .http detail
  | .status code body => .status code body
  | .undecodable error => .malformed error.message

/-- The tiers in a document that was fetched. -/
def tiersOf {α : Type} (tiers : α → Except GasError GasTiers) (fetched : Except Http.FetchError α) :
    Except GasError GasTiers :=
  match fetched with
  | .ok payload => tiers payload
  | .error error => .error (errorOf error)

/-- Asks for the tiers. -/
def tiers (network : Http.Network) (provider : GasProvider) : Except GasError GasTiers :=
  match provider with
  | fixed tiers => .ok tiers
  | tenths _ _ =>
    tiersOf TenthsPayload.tiers
      (Http.fetch network provider.request? fun _ => TenthsPayload.ofWritten?)
  | status _ _ =>
    tiersOf StatusPayload.tiers
      (Http.fetch network provider.request? fun _ => StatusPayload.ofWritten?)

end GasProvider
end FeeOracle
