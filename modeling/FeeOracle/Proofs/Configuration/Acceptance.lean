import FeeOracle.Configuration.Check
import FeeOracle.Proofs.Ticker

/-!
# Which configurations are taken into use

A configuration is accepted if and only if nothing in it contradicts itself
(`Configuration.IsUsable`), and then only its tickers are changed, each to its normal form. So an
accepted configuration is accepted again as it is.
-/

namespace FeeOracle

/-- Nothing in a configuration contradicts itself. -/
structure Configuration.IsUsable (configuration : Configuration) : Prop where
  nativeTicker : ¬ Text.IsBlankText configuration.gas.nativeTicker
  quoteTicker : ¬ Text.IsBlankText configuration.gas.quoteTicker
  targetTickers : ∀ asset ∈ configuration.gas.targets, ¬ Text.IsBlankText asset.ticker
  exchangeTimeout : 0 < configuration.exchange.timeoutSeconds
  /-- No exchange is asked twice. -/
  exchanges : (configuration.exchange.sources.map (·.exchange)).Nodup
  /-- There is a key only where one is used. -/
  keys : ∀ source ∈ configuration.exchange.sources,
    source.exchange ≠ .binance → source.apiKey = none
  nativeDecimals : configuration.gas.nativeUnitDecimals ≤ 28
  targetDecimals : ∀ asset ∈ configuration.gas.targets, asset.decimals ≤ 28
  /-- A provider that is asked over the network has an address and is waited for. -/
  provider : configuration.gas.provider.kind ≠ .fixed →
    (∃ url ∈ configuration.gas.provider.url, url ≠ "") ∧
    0 < configuration.gas.provider.timeoutSeconds

/-- The settings with every ticker replaced. -/
def GasSettings.mapTickers (rename : String → String) (gas : GasSettings) : GasSettings :=
  { gas with
    nativeTicker := rename gas.nativeTicker
    quoteTicker := rename gas.quoteTicker
    targets := gas.targets.map fun asset => { asset with ticker := rename asset.ticker } }

/-- The configuration with every ticker replaced. -/
def Configuration.mapTickers (rename : String → String) (configuration : Configuration) :
    Configuration :=
  { configuration with gas := configuration.gas.mapTickers rename }

/-! ### Tickers -/

theorem TargetAsset.normalize_eq_ok_iff {asset normal : TargetAsset} :
    asset.normalize = .ok normal ↔
      ¬ Text.IsBlankText asset.ticker ∧
      { asset with ticker := normalTicker asset.ticker } = normal := by
  have hnormalize : asset.normalize =
      normalizeTicker asset.ticker >>= fun ticker => .ok { asset with ticker } := by
    unfold TargetAsset.normalize
    cases normalizeTicker asset.ticker <;> rfl
  simp only [hnormalize, bind_eq_ok_iff, normalizeTicker_eq_ok_iff, Except.ok.injEq]
  constructor
  · rintro ⟨_, ⟨hname, rfl⟩, rfl⟩
    exact ⟨hname, rfl⟩
  · rintro ⟨hname, rfl⟩
    exact ⟨_, ⟨hname, rfl⟩, rfl⟩

theorem mapM_normalize_eq_ok_iff {targets normals : List TargetAsset} :
    targets.mapM (·.normalize) = .ok normals ↔
      (∀ asset ∈ targets, ¬ Text.IsBlankText asset.ticker) ∧
        (targets.map fun asset => { asset with ticker := normalTicker asset.ticker }) =
          normals := by
  induction targets generalizing normals with
  | nil => simp [pure, Except.pure]
  | cons asset targets ih =>
    simp only [List.mapM_cons, bind_eq_ok_iff, TargetAsset.normalize_eq_ok_iff, ih,
      List.forall_mem_cons, List.map_cons, pure, Except.pure, Except.ok.injEq]
    constructor
    · rintro ⟨_, ⟨hname, rfl⟩, _, ⟨hnames, rfl⟩, rfl⟩
      exact ⟨⟨hname, hnames⟩, rfl⟩
    · rintro ⟨⟨hname, hnames⟩, rfl⟩
      exact ⟨_, ⟨hname, rfl⟩, _, ⟨hnames, rfl⟩, rfl⟩

theorem GasSettings.normalize_eq_ok_iff {gas normal : GasSettings} :
    gas.normalize = .ok normal ↔
      (¬ Text.IsBlankText gas.nativeTicker ∧ ¬ Text.IsBlankText gas.quoteTicker ∧
        ∀ asset ∈ gas.targets, ¬ Text.IsBlankText asset.ticker) ∧
          gas.mapTickers normalTicker = normal := by
  simp only [GasSettings.normalize, bind_eq_ok_iff, normalizeTicker_eq_ok_iff,
    mapM_normalize_eq_ok_iff, Except.ok.injEq]
  constructor
  · rintro ⟨_, ⟨hnative, rfl⟩, _, ⟨hquote, rfl⟩, _, ⟨htargets, rfl⟩, rfl⟩
    exact ⟨⟨hnative, hquote, htargets⟩, rfl⟩
  · rintro ⟨⟨hnative, hquote, htargets⟩, rfl⟩
    exact ⟨_, ⟨hnative, rfl⟩, _, ⟨hquote, rfl⟩, _, ⟨htargets, rfl⟩, rfl⟩

/-! ### Faults -/

/-- The scan of the sources finds no fault if and only if all exchanges are different from each
    other and from those seen before, and no key is without use. -/
theorem sourceFault?_eq_none_iff {seen : List Exchange} {sources : List SourceSettings} :
    sourceFault? seen sources = none ↔
      (sources.map (·.exchange)).Nodup ∧ (∀ source ∈ sources, source.exchange ∉ seen) ∧
        ∀ source ∈ sources, source.exchange ≠ .binance → source.apiKey = none := by
  induction sources generalizing seen with
  | nil => simp [sourceFault?]
  | cons source sources ih =>
    have hkey : (source.apiKey.isSome = true ∧ source.exchange.takesKey = false) ↔
        ¬ (source.exchange ≠ .binance → source.apiKey = none) := by
      cases source.apiKey <;> cases source.exchange <;> simp [Exchange.takesKey]
    simp only [sourceFault?, hkey, List.map_cons, List.nodup_cons, List.forall_mem_cons,
      List.mem_map, not_exists, not_and]
    split
    next hseen => simp [hseen]
    next hnew =>
      split
      next hunused => simp [hunused]
      next hused =>
        have hused := not_not.1 hused
        simp only [ih, List.mem_cons, not_or, forall_and, hnew, not_false_eq_true, true_and]
        constructor
        · rintro ⟨hnodup, ⟨hother, hunseen⟩, hkeys⟩
          exact ⟨⟨hother, hnodup⟩, hunseen, hused, hkeys⟩
        · rintro ⟨⟨hother, hnodup⟩, hunseen, -, hkeys⟩
          exact ⟨hnodup, ⟨hother, hunseen⟩, hkeys⟩

theorem ProviderSettings.fault?_eq_none_iff {provider : ProviderSettings} :
    provider.fault? = none ↔
      (provider.kind ≠ .fixed → (∃ url ∈ provider.url, url ≠ "") ∧
        0 < provider.timeoutSeconds) := by
  have hremote : provider.kind.isRemote = true ↔ provider.kind ≠ .fixed := by
    cases provider.kind <;> simp [ProviderKind.isRemote]
  have hurl : provider.hasUrl = true ↔ ∃ url ∈ provider.url, url ≠ "" := by
    unfold ProviderSettings.hasUrl
    cases provider.url <;> simp
  rw [← hremote, ← hurl, ProviderSettings.fault?, Nat.pos_iff_ne_zero]
  cases provider.kind.isRemote <;> cases provider.hasUrl <;> simp

theorem GasSettings.fault?_eq_none_iff {gas : GasSettings} :
    gas.fault? = none ↔
      gas.nativeUnitDecimals ≤ 28 ∧ (∀ asset ∈ gas.targets, asset.decimals ≤ 28) ∧
      gas.provider.fault? = none := by
  have htargets : gas.targets.find? (fun asset => maxDecimals < asset.decimals) = none ↔
      ∀ asset ∈ gas.targets, asset.decimals ≤ 28 := by
    simp only [List.find?_eq_none, decide_eq_true_eq, Nat.not_lt]
    rfl
  rw [← htargets, GasSettings.fault?, ← Nat.not_lt]
  by_cases hnative : 28 < gas.nativeUnitDecimals
  · simp [hnative, maxDecimals]
  · cases hfind : gas.targets.find? (fun asset => maxDecimals < asset.decimals) <;>
      simp [hnative, maxDecimals]

namespace Configuration

variable {configuration : Configuration}

theorem fault?_eq_none_iff :
    configuration.fault? = none ↔
      0 < configuration.exchange.timeoutSeconds ∧
      sourceFault? [] configuration.exchange.sources = none ∧
        configuration.gas.fault? = none := by
  rw [fault?, Nat.pos_iff_ne_zero]
  by_cases htimeout : configuration.exchange.timeoutSeconds = 0
  · simp [htimeout]
  · cases sourceFault? [] configuration.exchange.sources <;> simp [htimeout]

/-- Whether there is a fault does not depend on how the assets are called. -/
theorem fault?_mapTickers_eq_none_iff (rename : String → String) :
    (configuration.mapTickers rename).fault? = none ↔ configuration.fault? = none := by
  simp only [fault?_eq_none_iff, GasSettings.fault?_eq_none_iff, mapTickers, GasSettings.mapTickers,
    List.forall_mem_map]

/-- A configuration is usable if and only if no ticker is blank and the checks find no fault. -/
theorem isUsable_iff :
    configuration.IsUsable ↔
      (¬ Text.IsBlankText configuration.gas.nativeTicker ∧
      ¬ Text.IsBlankText configuration.gas.quoteTicker ∧
        ∀ asset ∈ configuration.gas.targets, ¬ Text.IsBlankText asset.ticker) ∧
          configuration.fault? = none := by
  rw [fault?_eq_none_iff, sourceFault?_eq_none_iff, GasSettings.fault?_eq_none_iff,
    ProviderSettings.fault?_eq_none_iff]
  constructor
  · intro h
    exact ⟨⟨h.nativeTicker, h.quoteTicker, h.targetTickers⟩, h.exchangeTimeout,
      ⟨h.exchanges, fun _ _ => List.not_mem_nil, h.keys⟩, h.nativeDecimals,
      h.targetDecimals, h.provider⟩
  · rintro ⟨⟨hnative, hquote, htargets⟩, htimeout, ⟨hexchanges, -, hkeys⟩, hnativeDecimals,
      htargetDecimals, hprovider⟩
    exact ⟨hnative, hquote, htargets, htimeout, hexchanges, hkeys, hnativeDecimals,
      htargetDecimals, hprovider⟩

/-- What becomes of a configuration without blank tickers is up to the checks of its normal form. -/
theorem finalize_of_fault?_eq_some {gas : GasSettings}
    (hgas : configuration.gas.normalize = .ok gas) {fault : ConfigurationFault}
    (hfault : { configuration with gas }.fault? = some fault) :
    configuration.finalize = .error (.fault fault) := by
  simp only [finalize, hgas, hfault]

theorem finalize_of_fault?_eq_none {gas : GasSettings}
    (hgas : configuration.gas.normalize = .ok gas)
    (hfault : { configuration with gas }.fault? = none) :
    configuration.finalize = .ok { configuration with gas } := by
  simp only [finalize, hgas, hfault]

/-- The usable configurations are taken into use, with every ticker in its normal form. -/
theorem finalize_eq_ok_iff {accepted : Configuration} :
    configuration.finalize = .ok accepted ↔
      configuration.IsUsable ∧ configuration.mapTickers normalTicker = accepted := by
  rw [isUsable_iff, ← fault?_mapTickers_eq_none_iff normalTicker]
  cases hgas : configuration.gas.normalize with
  | error error =>
    have hblank : ¬ (¬ Text.IsBlankText configuration.gas.nativeTicker ∧
        ¬ Text.IsBlankText configuration.gas.quoteTicker ∧
        ∀ asset ∈ configuration.gas.targets, ¬ Text.IsBlankText asset.ticker) := by
      intro hnames
      rw [GasSettings.normalize_eq_ok_iff.2 ⟨hnames, rfl⟩] at hgas
      cases hgas
    simp [finalize, hgas, hblank]
  | ok gas =>
    obtain ⟨hnames, rfl⟩ := GasSettings.normalize_eq_ok_iff.1 hgas
    rw [and_iff_right hnames]
    cases hfault : (configuration.mapTickers normalTicker).fault? with
    | some fault => simp [finalize_of_fault?_eq_some hgas hfault]
    | none =>
      rw [finalize_of_fault?_eq_none hgas hfault, Except.ok.injEq, and_iff_right rfl]
      rfl

/-- Two renamings in turn are one. -/
theorem mapTickers_mapTickers (first second : String → String) :
    (configuration.mapTickers first).mapTickers second =
      configuration.mapTickers fun ticker => second (first ticker) := by
  simp [mapTickers, GasSettings.mapTickers, Function.comp_def]

/-- A configuration in normal form is usable if the one it comes from is. -/
theorem IsUsable.mapTickers_normalTicker (h : configuration.IsUsable) :
    (configuration.mapTickers normalTicker).IsUsable := by
  obtain ⟨⟨hnative, hquote, htargets⟩, hfault⟩ := isUsable_iff.1 h
  refine isUsable_iff.2 ⟨⟨?_, ?_, ?_⟩, (fault?_mapTickers_eq_none_iff normalTicker).2 hfault⟩
  · exact mt isBlankText_normalTicker_iff.1 hnative
  · exact mt isBlankText_normalTicker_iff.1 hquote
  · simp only [mapTickers, GasSettings.mapTickers, List.forall_mem_map]
    intro asset hasset
    exact mt isBlankText_normalTicker_iff.1 (htargets asset hasset)

/-- A configuration is accepted if and only if nothing in it contradicts itself. Then only its
    tickers are changed, each to the trimmed ticker in upper case, and what was accepted is accepted
    again as it is. -/
theorem finalize_accepts_iff_isUsable (configuration : Configuration) :
    ((∃ accepted, configuration.finalize = .ok accepted) ↔ configuration.IsUsable) ∧
      ∀ accepted, configuration.finalize = .ok accepted →
        accepted = configuration.mapTickers (fun ticker => Text.uppercase (Text.trim ticker)) ∧
          accepted.finalize = .ok accepted := by
  constructor
  · constructor
    · rintro ⟨accepted, haccepted⟩
      exact (finalize_eq_ok_iff.1 haccepted).1
    · intro husable
      exact ⟨_, finalize_eq_ok_iff.2 ⟨husable, rfl⟩⟩
  · intro accepted haccepted
    obtain ⟨husable, rfl⟩ := finalize_eq_ok_iff.1 haccepted
    refine ⟨rfl, finalize_eq_ok_iff.2 ⟨husable.mapTickers_normalTicker, ?_⟩⟩
    simp only [mapTickers_mapTickers, normalTicker_normalTicker]

/-- A configuration with blanks and small letters in its tickers, and a letter whose uppercase form
    has two. -/
def untidy : Configuration where
  exchange :=
    { sources := [{ exchange := .kraken }, { exchange := .binance, apiKey := some "key" }] }
  gas := {
    nativeTicker := "\u00a0eth "
    targets := [{ ticker := "straße", decimals := 28 }, { ticker := "ADA", decimals := 6 }]
    provider := { kind := .etherscan, url := some "http://gas" } }

theorem isUsable_untidy : untidy.IsUsable where
  nativeTicker := by decide +kernel
  quoteTicker := by decide +kernel
  targetTickers := by decide +kernel
  exchangeTimeout := by decide
  exchanges := by decide
  keys := by decide
  nativeDecimals := by decide
  targetDecimals := by decide
  provider := fun _ => ⟨⟨"http://gas", rfl, by decide⟩, by decide⟩

theorem finalize_accepts_iff_isUsable_untidy :
    ∃ accepted, untidy.finalize = .ok accepted ∧
      accepted.gas.nativeTicker = "ETH" ∧ accepted.gas.targets.map (·.ticker) = ["STRASSE", "ADA"] ∧
      accepted.finalize = .ok accepted := by
  obtain ⟨haccepts, hnormal⟩ := finalize_accepts_iff_isUsable untidy
  obtain ⟨accepted, haccepted⟩ := haccepts.2 isUsable_untidy
  obtain ⟨rfl, hagain⟩ := hnormal accepted haccepted
  exact ⟨_, haccepted, by decide +kernel, by decide +kernel, hagain⟩

end Configuration
end FeeOracle
