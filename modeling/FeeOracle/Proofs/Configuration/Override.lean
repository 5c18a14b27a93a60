import FeeOracle.Configuration.Load
import FeeOracle.Proofs.Configuration.Acceptance
import Mathlib.Data.List.Forall2

/-!
# Overriding a configuration

The environment gives keys and an address, and nothing else of a configuration depends on it. No
check looks at these, so it makes no difference whether a configuration is overridden before it is
checked or after (`Configuration.finalize_override`): a file is loaded as the text that it holds is,
and then overridden.
-/

namespace FeeOracle

/-- What an override does: it sets the key of the gas price provider, the address to listen on, and
    the key of a source that takes one, each where the environment has it. All else stays. -/
structure Configuration.IsOverriddenBy (environment : String → Option String)
    (before after : Configuration) : Prop where
  logLevel : after.logLevel = before.logLevel
  exchange : after.exchange = { before.exchange with sources := after.exchange.sources }
  sources : List.Forall₂
    (fun old new => new.exchange = old.exchange ∧ new.baseUrl = old.baseUrl ∧
      new.apiKey =
        if old.exchange = .binance then (environment "ORACLE_BINANCE_API_KEY").or old.apiKey
        else old.apiKey)
    before.exchange.sources after.exchange.sources
  gas : after.gas = { before.gas with
    provider := { before.gas.provider with
      apiKey := (environment "ORACLE_GAS_API_KEY").or before.gas.provider.apiKey } }
  server : after.server =
    { before.server with listenAddress :=
      (environment "ORACLE_LISTEN_ADDR").getD before.server.listenAddress }

variable {environment : String → Option String}

namespace SourceSettings

theorem override_eq (environment : String → Option String) (source : SourceSettings) :
    source.override environment =
      if source.exchange = .binance then
        { source with apiKey := (environment "ORACLE_BINANCE_API_KEY").or source.apiKey }
      else source := by
  have hvariable : Configuration.keyVariable .binance = "ORACLE_BINANCE_API_KEY" := by
    decide +kernel
  obtain ⟨exchange, baseUrl, apiKey⟩ := source
  cases exchange with
  | binance =>
    simp only [override, Exchange.takesKey, hvariable]
    cases environment "ORACLE_BINANCE_API_KEY" <;> rfl
  | bitfinex | coinbase | cryptocom | gemini | kraken => rfl

@[simp] theorem override_exchange (source : SourceSettings) :
    (source.override environment).exchange = source.exchange := by
  rw [override_eq]
  split <;> rfl

theorem override_of_ne_binance {source : SourceSettings} (h : source.exchange ≠ .binance) :
    source.override environment = source := by
  rw [override_eq, if_neg h]

@[simp] theorem override_baseUrl (source : SourceSettings) :
    (source.override environment).baseUrl = source.baseUrl := by
  rw [override_eq]
  split <;> rfl

theorem override_apiKey (source : SourceSettings) :
    (source.override environment).apiKey =
      if source.exchange = .binance then (environment "ORACLE_BINANCE_API_KEY").or source.apiKey
      else source.apiKey := by
  rw [override_eq]
  split <;> rfl

theorem override_override (source : SourceSettings) :
    (source.override environment).override environment = source.override environment := by
  by_cases hbinance : source.exchange = .binance
  · cases hkey : environment "ORACLE_BINANCE_API_KEY" <;> simp [override_eq, hbinance, hkey]
  · rw [override_of_ne_binance hbinance, override_of_ne_binance hbinance]

/-- A key is without use before an override if and only if it is afterwards. -/
theorem unusedKey_override (source : SourceSettings) :
    ((source.override environment).apiKey.isSome = true ∧ source.exchange.takesKey = false) ↔
      (source.apiKey.isSome = true ∧ source.exchange.takesKey = false) := by
  by_cases hbinance : source.exchange = .binance
  · simp [hbinance, Exchange.takesKey]
  · rw [override_of_ne_binance hbinance]

end SourceSettings

theorem sourceFault?_map_override (seen : List Exchange) (sources : List SourceSettings) :
    sourceFault? seen (sources.map (·.override environment)) = sourceFault? seen sources := by
  induction sources generalizing seen with
  | nil => rfl
  | cons source sources ih =>
    simp only [List.map_cons, sourceFault?, SourceSettings.override_exchange,
      SourceSettings.unusedKey_override, ih]

/-- The normal form does not depend on the provider. -/
theorem GasSettings.normalize_provider (gas : GasSettings) (provider : ProviderSettings) :
    { gas with provider }.normalize = gas.normalize.map fun normal => { normal with provider } := by
  simp only [normalize]
  cases normalizeTicker gas.nativeTicker with
  | error error => rfl
  | ok native =>
    cases normalizeTicker gas.quoteTicker with
    | error error => rfl
    | ok quote =>
      change (gas.targets.mapM (·.normalize) >>= _) =
        Except.map _ (gas.targets.mapM (·.normalize) >>= _)
      cases gas.targets.mapM (·.normalize) <;> rfl

namespace Configuration

/-- The three variables that an override looks at. -/
theorem override_eq (environment : String → Option String) (configuration : Configuration) :
    configuration.override environment =
      { configuration with
        exchange := { configuration.exchange with
          sources := configuration.exchange.sources.map (·.override environment) }
        gas := { configuration.gas with
          provider := { configuration.gas.provider with
            apiKey := (environment "ORACLE_GAS_API_KEY").or configuration.gas.provider.apiKey } }
        server := { listenAddress :=
          (environment "ORACLE_LISTEN_ADDR").getD configuration.server.listenAddress } } := by
  unfold override gasKeyVariable listenVariable
  cases environment "ORACLE_GAS_API_KEY" <;> rfl

theorem isOverriddenBy_override (environment : String → Option String)
    (configuration : Configuration) :
    configuration.IsOverriddenBy environment (configuration.override environment) where
  logLevel := rfl
  exchange := rfl
  sources := by
    rw [override_eq, List.forall₂_map_right_iff]
    exact List.forall₂_same.2 fun source _ =>
      ⟨source.override_exchange, source.override_baseUrl, source.override_apiKey⟩
  gas := by rw [override_eq]
  server := by rw [override_eq]

theorem override_congr {other : String → Option String}
    (h : ∀ name ∈ ["ORACLE_GAS_API_KEY", "ORACLE_LISTEN_ADDR", "ORACLE_BINANCE_API_KEY"],
      environment name = other name)
    (configuration : Configuration) :
    configuration.override environment = configuration.override other := by
  simp only [List.forall_mem_cons] at h
  obtain ⟨hgas, hlisten, hbinance, -⟩ := h
  simp only [override_eq, SourceSettings.override_eq, hgas, hlisten, hbinance]

theorem override_override (configuration : Configuration) :
    (configuration.override environment).override environment =
      configuration.override environment := by
  simp only [override_eq, List.map_map, Function.comp_def, SourceSettings.override_override]
  cases environment "ORACLE_GAS_API_KEY" <;> cases environment "ORACLE_LISTEN_ADDR" <;> rfl

/-- No check looks at what the environment may change. -/
theorem fault?_override (environment : String → Option String) (configuration : Configuration) :
    (configuration.override environment).fault? = configuration.fault? := by
  rw [override_eq, fault?, fault?]
  simp only [sourceFault?_map_override]
  rfl

/-- A configuration may be overridden before or after it is checked. -/
theorem finalize_override (configuration : Configuration) :
    (configuration.override environment).finalize =
      configuration.finalize.map (·.override environment) := by
  have hnormalize := GasSettings.normalize_provider configuration.gas
    (configuration.override environment).gas.provider
  change (configuration.override environment).gas.normalize = _ at hnormalize
  cases hgas : configuration.gas.normalize with
  | error error =>
    rw [hgas] at hnormalize
    simp [finalize, hnormalize, hgas, Except.map]
  | ok gas =>
    rw [hgas] at hnormalize
    obtain ⟨-, rfl⟩ := GasSettings.normalize_eq_ok_iff.1 hgas
    -- Whatever comes first, what is checked is the normal form, overridden.
    have hchecked := fault?_override environment (configuration.mapTickers normalTicker)
    cases hfault : (configuration.mapTickers normalTicker).fault? with
    | some fault =>
      rw [finalize_of_fault?_eq_some hgas hfault,
        finalize_of_fault?_eq_some hnormalize (hchecked.trans hfault)]
      rfl
    | none =>
      rw [finalize_of_fault?_eq_none hgas hfault,
        finalize_of_fault?_eq_none hnormalize (hchecked.trans hfault)]
      rfl

theorem accept_override (configuration : Configuration) :
    (configuration.override environment).accept =
      configuration.accept.map (·.override environment) := by
  rw [accept, accept, finalize_override]
  cases configuration.finalize <;> rfl

/-- A file is loaded as the text that it holds is, and then overridden, although it is overridden
    before it is checked. An override does nothing else than what the three variables ask for, a
    second one changes nothing, and no check notices it. -/
theorem ofFile_eq_override_ofText :
    (∀ text environment,
      ofFile (some text) environment = (ofText text).map (·.override environment)) ∧
      ∀ (configuration : Configuration) (environment : String → Option String),
        configuration.IsOverriddenBy environment (configuration.override environment) ∧
        (∀ other : String → Option String,
          (∀ name ∈ ["ORACLE_GAS_API_KEY", "ORACLE_LISTEN_ADDR", "ORACLE_BINANCE_API_KEY"],
            environment name = other name) →
          configuration.override environment = configuration.override other) ∧
        (configuration.override environment).override environment =
          configuration.override environment ∧
        (configuration.override environment).fault? = configuration.fault? := by
  constructor
  · intro text environment
    cases hdecode : decode? text with
    | none => simp only [ofFile, ofText, hdecode, Except.map]
    | some configuration => simp only [ofFile, ofText, hdecode, accept_override]
  · intro configuration environment
    exact ⟨isOverriddenBy_override environment configuration,
      fun other h => override_congr h configuration,
      override_override configuration, fault?_override environment configuration⟩

/-- A text with a source that takes a key and one that does not. -/
def twoSourcesText : String :=
  "[gas]\nnative_ticker = \x22eth\x22\n[[exchange.sources]]\nkind = \x22kraken\x22\n" ++
    "[[exchange.sources]]\nkind = \x22binance\x22\n"

/-- Variables for both sources, only one of which is looked at. -/
def keysForBoth : String → Option String := fun name =>
  [("ORACLE_BINANCE_API_KEY", "key"), ("ORACLE_KRAKEN_API_KEY", "secret")].lookup name

theorem ofFile_eq_override_ofText_twoSources :
    (∀ name ∈ ["ORACLE_GAS_API_KEY", "ORACLE_LISTEN_ADDR", "ORACLE_BINANCE_API_KEY"],
        keysForBoth name = [("ORACLE_BINANCE_API_KEY", "key")].lookup name) ∧
      ∃ loaded, ofText twoSourcesText = .ok loaded ∧
        ofFile (some twoSourcesText) keysForBoth = .ok (loaded.override keysForBoth) ∧
        loaded.override keysForBoth =
          loaded.override ([("ORACLE_BINANCE_API_KEY", "key")].lookup ·) ∧
        (loaded.override keysForBoth).exchange.sources.map (·.apiKey) = [none, some "key"] := by
  have hkeys : ∀ name ∈ ["ORACLE_GAS_API_KEY", "ORACLE_LISTEN_ADDR", "ORACLE_BINANCE_API_KEY"],
      keysForBoth name = [("ORACLE_BINANCE_API_KEY", "key")].lookup name := by decide +kernel
  have hsome : (ofText twoSourcesText).toOption =
      some { exchange := { sources := [{ exchange := .kraken }, { exchange := .binance }] } } := by
    decide +kernel
  obtain ⟨hfile, hoverride⟩ := ofFile_eq_override_ofText
  cases hloaded : ofText twoSourcesText with
  | error error =>
    rw [hloaded] at hsome
    cases hsome
  | ok loaded =>
    rw [hloaded] at hsome
    obtain rfl := Option.some.inj hsome
    refine ⟨hkeys, _, rfl, ?_, (hoverride _ _).2.1 _ hkeys, by decide +kernel⟩
    rw [hfile, hloaded]
    rfl

end Configuration
end FeeOracle
