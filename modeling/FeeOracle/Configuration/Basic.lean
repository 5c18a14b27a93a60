import FeeOracle.Exchange.Basic
import FeeOracle.Gas.Tiers

/-!
# Configuration

What the operator decides: which exchanges are asked and how long they are waited for, where the gas
price comes from, which assets it is expressed in, and where the service listens. Every field has a
value for its absence, except what identifies an exchange or an asset.
-/

namespace FeeOracle

/-- One exchange to ask. Without an address its public one is used. -/
structure SourceSettings where
  exchange : Exchange
  baseUrl : Option String := none
  apiKey : Option String := none
deriving DecidableEq, Repr

/-- How long anything is waited for where nothing is configured. -/
def defaultTimeoutSeconds : Nat := 10

/-- The exchanges to ask, and how long they are waited for. -/
structure ExchangeSettings where
  sources : List SourceSettings := []
  timeoutSeconds : Nat := defaultTimeoutSeconds
deriving DecidableEq, Repr

/-- Where the gas price comes from. -/
inductive ProviderKind
  | fixed
  | ethGasStation
  | etherscan
deriving DecidableEq, Repr

namespace ProviderKind

/-- The name in a configuration. -/
def name : ProviderKind → String
  | fixed => "fixed"
  | ethGasStation => "eth_gas_station"
  | etherscan => "etherscan"

/-- The name in a message. -/
def title : ProviderKind → String
  | fixed => "Fixed"
  | ethGasStation => "EthGasStation"
  | etherscan => "Etherscan"

/-- The kind of a name. -/
def ofName? (name : String) : Option ProviderKind :=
  [fixed, ethGasStation, etherscan].find? (·.name == name)

/-- Is the gas price asked for over the network? -/
def isRemote : ProviderKind → Bool
  | fixed => false
  | _ => true

end ProviderKind

/-- The gas price provider. The fixed tiers are those of the fixed kind. -/
structure ProviderSettings where
  kind : ProviderKind := .fixed
  url : Option String := none
  apiKey : Option String := none
  timeoutSeconds : Nat := defaultTimeoutSeconds
  fixed : GasTiers := ⟨0, 0, 0⟩
deriving DecidableEq, Repr

/-- An asset that the gas price is expressed in, and the number of decimals of its smallest unit. -/
structure TargetAsset where
  ticker : String
  decimals : Nat
deriving DecidableEq, Repr

/-- What is expressed, and in what: the chain's own coin, the decimals of the unit of gas prices,
    the common quote, and the targets. -/
structure GasSettings where
  nativeTicker : String := "ETH"
  nativeUnitDecimals : Nat := 9
  quoteTicker : String := "USD"
  targets : List TargetAsset := []
  provider : ProviderSettings := {}
deriving DecidableEq, Repr

/-- Where the service listens. -/
structure ServerSettings where
  listenAddress : String := "127.0.0.1:8080"
deriving DecidableEq, Repr

/-- All that can be configured, with what holds where nothing is said. -/
structure Configuration where
  logLevel : String := "info"
  exchange : ExchangeSettings := {}
  gas : GasSettings := {}
  server : ServerSettings := {}
deriving DecidableEq, Repr

instance : Inhabited Configuration := ⟨{}⟩

end FeeOracle
