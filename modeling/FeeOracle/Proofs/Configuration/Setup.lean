import FeeOracle.CommandLine.Run
import FeeOracle.Proofs.Configuration.Loaded
import FeeOracle.Proofs.Text.Utf8
import Mathlib.Data.List.Forall2
import Mathlib.Data.List.Nodup

/-!
# What can be set up

All exchanges are set up or none (`ExchangeSettings.adapters_eq_ok_iff`), and what stands in the way
is always a key that cannot be sent. A loaded configuration rules out everything else: its gas price
provider has an address, and no exchange has a key that it does not take. So a program with a loaded
configuration gets to its command unless that one key is unusable.
-/

namespace FeeOracle

variable {source : SourceSettings} {settings : ExchangeSettings} {configuration : Configuration}

/-- A text can be sent as the value of a header unless one of its bytes is a control other than the
    tab. -/
theorem isHeaderValue_eq_false_iff {text : String} :
    isHeaderValue text = false ↔
      ∃ byte ∈ Text.encodeUtf8 text, byte.toNat < 32 ∧ byte.toNat ≠ 9 ∨ byte.toNat = 127 := by
  have hchar (c : Char) : ((c = '\t' || (0x20 ≤ c.toNat && c.toNat != 0x7F)) = false) ↔
      ∃ byte ∈ String.utf8EncodeChar c, byte.toNat < 32 ∧ byte.toNat ≠ 9 ∨ byte.toNat = 127 := by
    have htab : c = '\t' ↔ c.toNat = 9 := by rw [← Char.toNat_inj]; rfl
    simp only [htab, Bool.or_eq_false_iff, Bool.and_eq_false_iff, decide_eq_false_iff_not,
      bne_eq_false_iff_eq]
    by_cases hascii : c.toNat < 0x80
    · rw [Text.utf8EncodeChar_of_ascii hascii]
      simp only [List.mem_singleton, exists_eq_left,
        Text.toNat_ofNat_of_lt (show c.toNat < 256 by omega)]
      omega
    · constructor
      · omega
      · rintro ⟨byte, hbyte, hcontrol⟩
        have hhigh := Text.le_of_mem_utf8EncodeChar (Nat.le_of_not_lt hascii) hbyte
        omega
  rw [isHeaderValue, Text.encodeUtf8_eq, Text.utf8Bytes, List.all_eq_false]
  simp only [Bool.not_eq_true, hchar, List.mem_flatMap]
  constructor
  · rintro ⟨c, hc, byte, hbyte, hcontrol⟩
    exact ⟨byte, ⟨c, hc, hbyte⟩, hcontrol⟩
  · rintro ⟨byte, ⟨c, hc, hbyte⟩, hcontrol⟩
    exact ⟨c, hc, byte, hbyte, hcontrol⟩

/-- A source can be set up unless it is sent a key that cannot be sent. -/
theorem Adapter.ofSettings_eq_ok_iff {adapter : Adapter} :
    ofSettings source = .ok adapter ↔
      (source.exchange = .binance → ∀ key ∈ source.apiKey, isHeaderValue key = true) ∧
        { exchange := source.exchange
          address := source.baseUrl.getD source.exchange.defaultUrl
          apiKey := if source.exchange = .binance then source.apiKey else none } = adapter := by
  obtain ⟨exchange, baseUrl, apiKey⟩ := source
  cases exchange with
  | binance =>
    cases apiKey with
    | none => simp [ofSettings, Exchange.takesKey]
    | some key =>
      by_cases hkey : isHeaderValue key = true <;> simp [ofSettings, Exchange.takesKey, hkey]
  | bitfinex | coinbase | cryptocom | gemini | kraken => simp [ofSettings, Exchange.takesKey]

theorem Adapter.exists_ofSettings_eq_error_iff :
    (∃ error, ofSettings source = .error error) ↔
      source.exchange = .binance ∧ ∃ key ∈ source.apiKey, isHeaderValue key = false := by
  have hfails : (∃ error, ofSettings source = .error error) ↔
      ¬ ∃ adapter, ofSettings source = .ok adapter := by
    cases ofSettings source <;> simp
  simp only [hfails, ofSettings_eq_ok_iff, exists_and_left, exists_eq', and_true,
    Classical.not_imp, not_forall, Bool.not_eq_true]

/-- All exchanges are set up, each from its own settings and in their order, or none. -/
theorem ExchangeSettings.adapters_eq_ok_iff {adapters : List Adapter} :
    settings.adapters = .ok adapters ↔
      List.Forall₂ (fun source adapter => Adapter.ofSettings source = .ok adapter)
        settings.sources adapters := by
  unfold ExchangeSettings.adapters
  induction settings.sources generalizing adapters with
  | nil => simp [pure, Except.pure, eq_comm]
  | cons source sources ih =>
    simp only [List.mapM_cons, bind_eq_ok_iff, ih, List.forall₂_cons_left_iff]
    constructor
    · rintro ⟨adapter, hadapter, rest, hrest, hall⟩
      exact ⟨adapter, rest, hadapter, hrest, (Except.ok.inj hall).symm⟩
    · rintro ⟨adapter, rest, hadapter, hrest, rfl⟩
      exact ⟨adapter, hadapter, rest, hrest, rfl⟩

/-- One source that cannot be set up is enough for nothing to be set up. -/
theorem ExchangeSettings.exists_adapters_eq_error_iff :
    (∃ error, settings.adapters = .error error) ↔
      ∃ source ∈ settings.sources, ∃ error, Adapter.ofSettings source = .error error := by
  unfold ExchangeSettings.adapters
  induction settings.sources with
  | nil => simp [pure, Except.pure]
  | cons source sources ih =>
    simp only [List.mapM_cons, bind_eq_error_iff, List.exists_mem_cons_iff, ← ih]
    constructor
    · rintro ⟨error, herror | ⟨adapter, -, herror | ⟨rest, -, hdone⟩⟩⟩
      · exact .inl ⟨error, herror⟩
      · exact .inr ⟨error, herror⟩
      · cases hdone
    · rintro (⟨error, herror⟩ | ⟨error, herror⟩)
      · exact ⟨error, .inl herror⟩
      · cases hsource : Adapter.ofSettings source with
        | error cause => exact ⟨cause, .inl rfl⟩
        | ok adapter => exact ⟨error, .inr ⟨adapter, rfl, .inl herror⟩⟩

/-- Every exchange keeps its name. -/
theorem ExchangeSettings.map_name_adapters {adapters : List Adapter}
    (h : settings.adapters = .ok adapters) :
    adapters.map (·.name) = settings.sources.map (·.exchange.name) := by
  have hall := adapters_eq_ok_iff.1 h
  clear h
  generalize settings.sources = sources at hall
  induction hall with
  | nil => rfl
  | cons hadapter _ ih =>
    obtain ⟨-, rfl⟩ := Adapter.ofSettings_eq_ok_iff.1 hadapter
    rw [List.map_cons, List.map_cons, ih]
    rfl

theorem Exchange.name_injective : Function.Injective Exchange.name := by
  intro one other h
  rw [← Option.some_inj, ← ofName?_name, h, ofName?_name]

/-- A provider can be set up unless it has to be asked and has no address. -/
theorem GasProvider.exists_ofSettings_eq_ok {provider : ProviderSettings}
    (h : provider.kind ≠ .fixed → ∃ url ∈ provider.url, url ≠ "") :
    ∃ result, GasProvider.ofSettings provider = .ok result := by
  obtain ⟨kind, url, apiKey, timeoutSeconds, fixed⟩ := provider
  cases kind with
  | fixed => exact ⟨_, rfl⟩
  | ethGasStation | etherscan =>
    obtain ⟨address, rfl, haddress⟩ := h (by simp)
    simp [GasProvider.ofSettings, GasProvider.requiredUrl, haddress, Except.map]

/-- What is configured is set up before any command is carried out. -/
theorem CommandLine.runConfigured_of_adapters {surroundings : Surroundings} {command : Command}
    {adapters : List Adapter} {provider : GasProvider}
    (hadapters : configuration.exchange.adapters = .ok adapters)
    (hprovider : GasProvider.ofSettings configuration.gas.provider = .ok provider) :
    runConfigured surroundings configuration command =
      runCommand surroundings configuration
        { sources := adapters.map (·.toSource surroundings.network)
          timeout := configuration.exchange.timeoutSeconds * 1000 } provider command := by
  simp only [runConfigured, ExchangeSettings.aggregator, hadapters, Except.map, hprovider]

/-- Under a loaded configuration the gas price provider can be set up, and so can the exchanges
    unless the key for the one that takes a key has a byte that no header can have. Then they have
    the configured names, each name once and in the configured order, and any command is carried out
    with them. Whatever the settings, all exchanges are set up as configured, or none if there is
    one that cannot be. -/
theorem Configuration.setup_of_isLoaded :
    (∀ configuration : Configuration, configuration.IsLoaded →
      (∃ provider, GasProvider.ofSettings configuration.gas.provider = .ok provider) ∧
      ((∃ error, configuration.exchange.adapters = .error error) ↔
        ∃ source ∈ configuration.exchange.sources,
          source.exchange = .binance ∧ ∃ key ∈ source.apiKey,
          ∃ byte ∈ Text.encodeUtf8 key, byte.toNat < 32 ∧ byte.toNat ≠ 9 ∨ byte.toNat = 127) ∧
      ∀ adapters, configuration.exchange.adapters = .ok adapters →
        adapters.map (·.name) = configuration.exchange.sources.map (·.exchange.name) ∧
        (adapters.map (·.name)).Nodup ∧
        ∀ surroundings command, ∃ provider,
          CommandLine.runConfigured surroundings configuration command =
            CommandLine.runCommand surroundings configuration
              { sources := adapters.map (·.toSource surroundings.network)
                timeout := configuration.exchange.timeoutSeconds * 1000 } provider command) ∧
    ∀ settings : ExchangeSettings,
      ((∃ error, settings.adapters = .error error) ↔
        ∃ source ∈ settings.sources, ∃ error, Adapter.ofSettings source = .error error) ∧
      ∀ adapters, settings.adapters = .ok adapters ↔
        List.Forall₂ (fun source adapter => Adapter.ofSettings source = .ok adapter)
          settings.sources adapters := by
  refine ⟨?_, fun settings => ⟨ExchangeSettings.exists_adapters_eq_error_iff, fun adapters =>
    ExchangeSettings.adapters_eq_ok_iff⟩⟩
  intro configuration hloaded
  have husable := hloaded.isUsable
  obtain ⟨provider, hprovider⟩ :=
    GasProvider.exists_ofSettings_eq_ok (fun hremote => (husable.provider hremote).1)
  refine ⟨⟨provider, hprovider⟩, ?_, ?_⟩
  · simp only [ExchangeSettings.exists_adapters_eq_error_iff,
      Adapter.exists_ofSettings_eq_error_iff, isHeaderValue_eq_false_iff]
  · intro adapters hadapters
    have hnames := ExchangeSettings.map_name_adapters hadapters
    refine ⟨hnames, ?_, ?_⟩
    · rw [hnames, ← Function.comp_def, ← List.map_map]
      exact List.Nodup.map Exchange.name_injective husable.exchanges
    · intro surroundings command
      exact ⟨provider, CommandLine.runConfigured_of_adapters hadapters hprovider⟩

/-- A configuration with two exchanges, one of them with a key, and a provider that is asked over
    the network. -/
def keyedText : String :=
  "[[exchange.sources]]\nkind = \"kraken\"\n" ++
    "[[exchange.sources]]\nkind = \"binance\"\napi_key = \"key\"\n" ++
    "[gas.provider]\nkind = \"etherscan\"\nurl = \"http://gas\"\n"

/-- What that text says. -/
def keyed : Configuration where
  exchange :=
    { sources := [{ exchange := .kraken }, { exchange := .binance, apiKey := some "key" }] }
  gas := { provider := { kind := .etherscan, url := some "http://gas" } }

/-- It is set up as it stands, and not with a key of two lines from the environment. -/
theorem Configuration.setup_of_isLoaded_keyed :
    (∃ configuration adapters, Configuration.ofText keyedText = .ok configuration ∧
      configuration.exchange.adapters = .ok adapters ∧
      adapters.map (·.name) = ["kraken", "binance"] ∧
      (adapters.map (·.name)).Nodup ∧ ∃ provider,
        GasProvider.ofSettings configuration.gas.provider = .ok provider) ∧
    ∃ configuration, Configuration.ofFile (some keyedText)
        (fun name => if name = "ORACLE_BINANCE_API_KEY" then some "a\nb" else none) =
          .ok configuration ∧
      ∃ error, configuration.exchange.adapters = .error error := by
  obtain ⟨hloaded, -⟩ := setup_of_isLoaded
  constructor
  · have htext : Configuration.ofText keyedText = .ok keyed := by decide +kernel
    obtain ⟨hprovider, hfails, hnames⟩ := hloaded keyed (.ofText htext)
    obtain ⟨adapters, hadapters⟩ : ∃ adapters, keyed.exchange.adapters = .ok adapters := ⟨_, rfl⟩
    obtain ⟨hconfigured, hnodup, -⟩ := hnames adapters hadapters
    exact ⟨keyed, adapters, htext, hadapters, hconfigured, hnodup, hprovider⟩
  · have hfile : Configuration.ofFile (some keyedText)
        (fun name => if name = "ORACLE_BINANCE_API_KEY" then some "a\nb" else none) =
          .ok { keyed with exchange := { sources := [{ exchange := .kraken },
            { exchange := .binance, apiKey := some "a\nb" }] } } := by decide +kernel
    obtain ⟨-, hfails, -⟩ := hloaded _ (.ofFile hfile)
    refine ⟨_, hfile,
      hfails.2 ⟨{ exchange := .binance, apiKey := some "a\nb" }, by simp, rfl, "a\nb", rfl, 10, ?_⟩⟩
    decide +kernel

end FeeOracle
