import FeeOracle.Configuration.Basic
import FeeOracle.Datum.Decode
import FeeOracle.Power

/-!
# Configurations as data

The names that the parts of a configuration have in a document, for reading and for writing. The
fields are listed in the order in which a list may give them.
-/

namespace FeeOracle

open Datum (field? fieldOr? fields? natBelow? optional? listOf? choice? Format)

namespace Configuration

/-- Bounds of the numbers in a configuration. -/
def longBound : Nat := 2 ^ (64 : Nat)

/-- Numbers of 32 bits lie below this bound. -/
def shortBound : Nat := 2 ^ (32 : Nat)

/-- The data of something that may be absent. -/
def optionalDatum (value : Option String) : Datum := (value.map Datum.text).getD .null

/-- The data of a natural number. -/
def natDatum (n : Nat) : Datum := .integer n

end Configuration

open FeeOracle.Configuration

/-- A source as configured. Only its kind has to be there. -/
def SourceSettings.ofDatum? (format : Format) (datum : Datum) : Option SourceSettings := do
  let fields ← fields? ["kind", "base_url", "api_key"] datum
  let kind ← field? fields "kind" (choice? format)
  let exchange ← Exchange.ofName? kind
  let baseUrl ← fieldOr? fields "base_url" none (optional? Datum.text?)
  let apiKey ← fieldOr? fields "api_key" none (optional? Datum.text?)
  some { exchange, baseUrl, apiKey }

/-- The source as data, absent settings included. -/
def SourceSettings.toDatum (settings : SourceSettings) : Datum :=
  .table [("kind", .text settings.exchange.name), ("base_url", optionalDatum settings.baseUrl),
    ("api_key", optionalDatum settings.apiKey)]

/-- The settings of the sources; all of them may be absent. -/
def ExchangeSettings.ofDatum? (format : Format) (datum : Datum) : Option ExchangeSettings := do
  let fields ← fields? ["sources", "timeout_secs"] datum
  let sources ← fieldOr? fields "sources" [] (listOf? (SourceSettings.ofDatum? format))
  let timeoutSeconds ← fieldOr? fields "timeout_secs" defaultTimeoutSeconds (natBelow? longBound)
  some { sources, timeoutSeconds }

/-- The settings of the sources as data. -/
def ExchangeSettings.toDatum (settings : ExchangeSettings) : Datum :=
  .table [("sources", .list (settings.sources.map (·.toDatum))),
    ("timeout_secs", natDatum settings.timeoutSeconds)]

/-- Reads tiers of the gas price. All three have to be there. -/
def GasTiers.ofDatum? (datum : Datum) : Option GasTiers := do
  let fields ← fields? ["slow", "fast", "fastest"] datum
  let slow ← field? fields "slow" (natBelow? longBound)
  let fast ← field? fields "fast" (natBelow? longBound)
  let fastest ← field? fields "fastest" (natBelow? longBound)
  some { slow, fast, fastest }

/-- The tiers as data. -/
def GasTiers.toDatum (tiers : GasTiers) : Datum :=
  .table [("slow", natDatum tiers.slow), ("fast", natDatum tiers.fast),
    ("fastest", natDatum tiers.fastest)]

/-- The settings of the gas price provider; all of them may be absent. -/
def ProviderSettings.ofDatum? (format : Format) (datum : Datum) : Option ProviderSettings := do
  let fields ← fields? ["kind", "url", "api_key", "timeout_secs", "fixed"] datum
  let kind ← fieldOr? fields "kind" ProviderKind.fixed fun datum =>
    (choice? format datum).bind ProviderKind.ofName?
  let url ← fieldOr? fields "url" none (optional? Datum.text?)
  let apiKey ← fieldOr? fields "api_key" none (optional? Datum.text?)
  let timeoutSeconds ← fieldOr? fields "timeout_secs" defaultTimeoutSeconds (natBelow? longBound)
  let fixed ← fieldOr? fields "fixed" ⟨0, 0, 0⟩ GasTiers.ofDatum?
  some { kind, url, apiKey, timeoutSeconds, fixed }

/-- The settings of the gas price provider as data. -/
def ProviderSettings.toDatum (settings : ProviderSettings) : Datum :=
  .table [("kind", .text settings.kind.name), ("url", optionalDatum settings.url),
    ("api_key", optionalDatum settings.apiKey), ("timeout_secs", natDatum settings.timeoutSeconds),
    ("fixed", settings.fixed.toDatum)]

/-- Reads a target asset. Both fields have to be there. -/
def TargetAsset.ofDatum? (datum : Datum) : Option TargetAsset := do
  let fields ← fields? ["ticker", "decimals"] datum
  let ticker ← field? fields "ticker" Datum.text?
  let decimals ← field? fields "decimals" (natBelow? shortBound)
  some { ticker, decimals }

/-- A target as data. -/
def TargetAsset.toDatum (asset : TargetAsset) : Datum :=
  .table [("ticker", .text asset.ticker), ("decimals", natDatum asset.decimals)]

/-- The gas settings; all of them may be absent. -/
def GasSettings.ofDatum? (format : Format) (datum : Datum) : Option GasSettings := do
  let fields ←
    fields?
      ["native_ticker", "native_unit_decimals", "quote_ticker", "target_assets", "provider"] datum
  let absent : GasSettings := {}
  let nativeTicker ← fieldOr? fields "native_ticker" absent.nativeTicker Datum.text?
  let nativeUnitDecimals ←
    fieldOr? fields "native_unit_decimals" absent.nativeUnitDecimals (natBelow? shortBound)
  let quoteTicker ← fieldOr? fields "quote_ticker" absent.quoteTicker Datum.text?
  let targets ← fieldOr? fields "target_assets" absent.targets (listOf? TargetAsset.ofDatum?)
  let provider ← fieldOr? fields "provider" absent.provider (ProviderSettings.ofDatum? format)
  some { nativeTicker, nativeUnitDecimals, quoteTicker, targets, provider }

/-- The gas settings as data. -/
def GasSettings.toDatum (settings : GasSettings) : Datum :=
  .table [("native_ticker", .text settings.nativeTicker),
    ("native_unit_decimals", natDatum settings.nativeUnitDecimals),
    ("quote_ticker", .text settings.quoteTicker),
    ("target_assets", .list (settings.targets.map (·.toDatum))),
    ("provider", settings.provider.toDatum)]

/-- The settings of the service; all of them may be absent. -/
def ServerSettings.ofDatum? (datum : Datum) : Option ServerSettings := do
  let fields ← fields? ["listen_addr"] datum
  let absent : ServerSettings := {}
  let listenAddress ← fieldOr? fields "listen_addr" absent.listenAddress Datum.text?
  some { listenAddress }

/-- The settings of the service as data. -/
def ServerSettings.toDatum (settings : ServerSettings) : Datum :=
  .table [("listen_addr", .text settings.listenAddress)]

/-- A configuration; each of its parts may be absent. -/
def Configuration.ofDatum? (format : Format) (datum : Datum) : Option Configuration := do
  let fields ← fields? ["log_level", "exchange", "gas", "server"] datum
  let absent : Configuration := {}
  let logLevel ← fieldOr? fields "log_level" absent.logLevel Datum.text?
  let exchange ← fieldOr? fields "exchange" absent.exchange (ExchangeSettings.ofDatum? format)
  let gas ← fieldOr? fields "gas" absent.gas (GasSettings.ofDatum? format)
  let server ← fieldOr? fields "server" absent.server ServerSettings.ofDatum?
  some { logLevel, exchange, gas, server }

/-- The data of a configuration, with nothing left out. -/
def Configuration.toDatum (configuration : Configuration) : Datum :=
  .table [("log_level", .text configuration.logLevel), ("exchange", configuration.exchange.toDatum),
    ("gas", configuration.gas.toDatum), ("server", configuration.server.toDatum)]

end FeeOracle
