import FeeOracle.Configuration.Basic
import FeeOracle.Ticker

/-!
# Checking a configuration

A configuration is taken into use with its tickers in normal form, and only if nothing in it
contradicts itself. The faults are looked for in a fixed order, and the first one found is reported.
-/

namespace FeeOracle

/-- What can be wrong with a configuration. -/
inductive ConfigurationFault
  | noExchangeTimeout
  | repeatedSource (exchange : Exchange)
  | unusedKey (exchange : Exchange)
  | nativeDecimals
  | targetDecimals (asset : TargetAsset)
  | noProviderUrl
  | noProviderTimeout
deriving DecidableEq, Repr

/-- The greatest number of decimals that can be computed with. -/
def maxDecimals : Nat := 28

/-- The text of the fault, which names the setting at fault. -/
def ConfigurationFault.message (fault : ConfigurationFault) : String :=
  "invalid configuration: " ++
    match fault with
    | noExchangeTimeout => "exchange.timeout_secs must be greater than zero"
    | repeatedSource exchange => s!"exchange source '{exchange.name}' configured more than once"
    | unusedKey exchange => s!"exchange source '{exchange.name}' does not use an api_key"
    | nativeDecimals => s!"gas.native_unit_decimals must be at most {maxDecimals}"
    | targetDecimals asset =>
      s!"target asset {asset.ticker} has {asset.decimals} decimals, at most {maxDecimals} supported"
    | noProviderUrl => "gas.provider.url is required for remote gas providers"
    | noProviderTimeout => "gas.provider.timeout_secs must be greater than zero"

/-- Why a configuration is not taken into use. -/
inductive ConfigurationError
  | ticker (cause : TickerError)
  | fault (cause : ConfigurationFault)
deriving DecidableEq, Repr

/-- The text of the error. -/
def ConfigurationError.message : ConfigurationError → String
  | ticker cause => cause.message
  | fault cause => cause.message

/-- The first source that is configured twice or has a key without use; `seen` holds the exchanges
    before. -/
def sourceFault? (seen : List Exchange) : List SourceSettings → Option ConfigurationFault
  | [] => none
  | source :: rest =>
    if source.exchange ∈ seen then some (.repeatedSource source.exchange)
    else if source.apiKey.isSome ∧ source.exchange.takesKey = false then
      some (.unusedKey source.exchange)
    else sourceFault? (source.exchange :: seen) rest

/-- Is there an address to ask? -/
def ProviderSettings.hasUrl (provider : ProviderSettings) : Bool :=
  match provider.url with
  | some url => !url.isEmpty
  | none => false

/-- What a remote provider lacks. -/
def ProviderSettings.fault? (provider : ProviderSettings) : Option ConfigurationFault :=
  if !provider.kind.isRemote then none
  else if !provider.hasUrl then some .noProviderUrl
  else if provider.timeoutSeconds = 0 then some .noProviderTimeout
  else none

/-- The first fault of the gas settings: the unit of the coin is checked first, then the targets in
    their order, then the provider. -/
def GasSettings.fault? (gas : GasSettings) : Option ConfigurationFault :=
  if maxDecimals < gas.nativeUnitDecimals then some .nativeDecimals
  else
    match gas.targets.find? (fun asset => maxDecimals < asset.decimals) with
    | some asset => some (.targetDecimals asset)
    | none => gas.provider.fault?

namespace Configuration

/-- The first fault of a configuration: the timeout is checked first, then the sources, then the gas
    settings. -/
def fault? (configuration : Configuration) : Option ConfigurationFault :=
  if configuration.exchange.timeoutSeconds = 0 then some .noExchangeTimeout
  else
    match sourceFault? [] configuration.exchange.sources with
    | some fault => some fault
    | none => configuration.gas.fault?

end Configuration

/-- The asset with its ticker in normal form. -/
def TargetAsset.normalize (asset : TargetAsset) : Except TickerError TargetAsset :=
  (normalizeTicker asset.ticker).map fun ticker => { asset with ticker }

/-- The settings with every ticker in normal form. -/
def GasSettings.normalize (gas : GasSettings) : Except TickerError GasSettings := do
  let nativeTicker ← normalizeTicker gas.nativeTicker
  let quoteTicker ← normalizeTicker gas.quoteTicker
  let targets ← gas.targets.mapM (·.normalize)
  .ok { gas with nativeTicker, quoteTicker, targets }

/-- The configuration as it is taken into use. -/
def Configuration.finalize (configuration : Configuration) :
    Except ConfigurationError Configuration :=
  match configuration.gas.normalize with
  | .error error => .error (.ticker error)
  | .ok gas =>
    let normal := { configuration with gas }
    match normal.fault? with
    | some fault => .error (.fault fault)
    | none => .ok normal

end FeeOracle
