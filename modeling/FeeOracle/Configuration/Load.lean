import FeeOracle.Configuration.Check
import FeeOracle.Configuration.Form
import FeeOracle.Toml.Reader

/-!
# Loading a configuration

A configuration is read from a text. One that comes from a file is overridden by the environment
before it is checked: the keys and the address to listen on may be given there.
-/

namespace FeeOracle

/-- Why no configuration could be loaded. -/
inductive LoadError
  | unreadable
  | undecodable
  | unusable (cause : ConfigurationError)
deriving DecidableEq, Repr

namespace Configuration

/-- The configuration that a text describes, not yet checked. -/
def decode? (text : String) : Option Configuration := do
  let datum ← Toml.parse? text
  ofDatum? .toml datum

/-- The configuration as it is taken into use. -/
def accept (configuration : Configuration) : Except LoadError Configuration :=
  match configuration.finalize with
  | .ok accepted => .ok accepted
  | .error error => .error (.unusable error)

/-- The configuration that a text describes. -/
def ofText (text : String) : Except LoadError Configuration :=
  match decode? text with
  | some configuration => configuration.accept
  | none => .error .undecodable

/-- The variable that holds the key for an exchange. -/
def keyVariable (exchange : Exchange) : String :=
  "ORACLE_" ++ String.ofList (exchange.name.toList.map Char.toUpper) ++ "_API_KEY"

end Configuration

/-- The settings with the key that the environment gives, where the exchange takes one. -/
def SourceSettings.override (environment : String → Option String) (source : SourceSettings) :
    SourceSettings :=
  if source.exchange.takesKey then
    match environment (Configuration.keyVariable source.exchange) with
    | some key => { source with apiKey := some key }
    | none => source
  else source

namespace Configuration

/-- The variable that overrides the key of the gas price provider. -/
def gasKeyVariable : String := "ORACLE_GAS_API_KEY"

/-- The variable that overrides the address to listen on. -/
def listenVariable : String := "ORACLE_LISTEN_ADDR"

/-- The configuration overridden by the environment. -/
def override (environment : String → Option String) (configuration : Configuration) :
    Configuration :=
  let provider := configuration.gas.provider
  { configuration with
    exchange := { configuration.exchange with
      sources := configuration.exchange.sources.map (·.override environment) }
    gas := { configuration.gas with
      provider := { provider with
        apiKey := match environment gasKeyVariable with
          | some key => some key
          | none => provider.apiKey } }
    server :=
      { listenAddress := (environment listenVariable).getD configuration.server.listenAddress } }

/-- The configuration that a file describes; `contents` is absent if it cannot be read. -/
def ofFile (contents : Option String) (environment : String → Option String) :
    Except LoadError Configuration :=
  match contents with
  | none => .error .unreadable
  | some text =>
    match decode? text with
    | some configuration => (configuration.override environment).accept
    | none => .error .undecodable

example : keyVariable .binance = "ORACLE_BINANCE_API_KEY" := by decide +kernel

end Configuration
end FeeOracle
