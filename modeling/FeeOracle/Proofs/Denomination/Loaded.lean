import FeeOracle.Proofs.Aggregator.Quotes
import FeeOracle.Proofs.Configuration.Loaded
import FeeOracle.Proofs.Denomination.Amount
import FeeOracle.Proofs.Denomination.Call

/-!
# Denominating under a loaded configuration

The tickers of a loaded configuration are in normal form, and the decimals are in range. So the
chain's own coin is told by its ticker alone (`isNative_iff_of_isNormal`), the pairs that a target
needs have the tickers as configured (`neededPairs_of_isNormal`), and no shift is out of range. What
is left of the reasons for which a row may be missing is `Missing`.
-/

namespace FeeOracle

/-- Tickers in normal form that agree apart from the case of ASCII letters are the same. -/
theorem IsNormalTicker.asciiLower_eq_iff {ticker other : String} (h : IsNormalTicker ticker)
    (hother : IsNormalTicker other) :
    Denomination.asciiLower ticker = Denomination.asciiLower other ↔ ticker = other := by
  constructor
  · intro hlower
    rw [Denomination.asciiLower, Denomination.asciiLower, String.ofList_inj] at hlower
    exact String.toList_inj.1
      (Text.eq_of_map_toLower_eq h.isLower_eq_false hother.isLower_eq_false hlower)
  · rintro rfl
    rfl

namespace Denomination

open Aggregator

/-! ### The reasons that are left -/

/-- The pairs that a target needs, with the tickers as they are configured: its own, and that of the
    chain's coin. -/
def configuredPair (settings : GasSettings) (target : TargetAsset) : Side → TickerPair
  | .first => { base := target.ticker, quote := settings.quoteTicker }
  | .second => { base := settings.nativeTicker, quote := settings.quoteTicker }

/-- The lookup that brings the price of a role. -/
def PriceRole.side : PriceRole → Side
  | asset => .first
  | native => .second

/-- Why a target of a loaded configuration may have no row: there is no quote for one of its two
    pairs, one of the quotes does not become a decimal number other than zero, or the conversion of
    both overflows. -/
inductive Missing (panel : Panel) (settings : GasSettings) (fast : Nat) (target : TargetAsset)
    (place : Nat) : Skipped → Prop
  | noQuote {side : Side} {cause : NoQuote}
      (hquote : panel.quote place side (configuredPair settings target side) = .error cause) :
      Missing panel settings fast target place (.noQuote cause)
  | unconvertible {role : PriceRole} {price : Double}
      (hquote : panel.quote place role.side (configuredPair settings target role.side) = .ok price)
      (hdecimal : ∀ x, Decimal.ofDouble? price = some x → x.isZero = true) :
      Missing panel settings fast target place (.conversion (.invalidPrice role price))
  | overflow {assetPrice nativePrice : Double} {asset native power : Decimal}
      (hasset : panel.quote place .first (configuredPair settings target .first) = .ok assetPrice)
      (hnative : panel.quote place .second (configuredPair settings target .second) =
        .ok nativePrice)
      (hassetDecimal : Decimal.ofDouble? assetPrice = some asset ∧ asset.isZero = false)
      (hnativeDecimal : Decimal.ofDouble? nativePrice = some native ∧ native.isZero = false)
      (hpower : powerOfTen ((target.decimals : Int) - settings.nativeUnitDecimals) = .ok power)
      (hamount : amount? fast native asset power = none) :
      Missing panel settings fast target place (.conversion .overflow)

/-- What the two lookups of a target do to the world outside. -/
def IsLookupEvent (settings : GasSettings) (target : TargetAsset) (place : Nat)
    (event : CallEvent) : Prop :=
  ∃ side, event = .asked ⟨place, side⟩ (configuredPair settings target side) ∨
    ∃ warnings, event = .lookedUp ⟨place, side⟩ warnings

/-- What comes of a target of a loaded configuration, and what is done for it until then. The
    sources are asked for no pair but the two that are configured, and for none at all if the target
    is the chain's own coin. -/
inductive ComesTo (panel : Panel) (settings : GasSettings) (fast : Nat) (target : TargetAsset)
    (place : Nat) : Except Skipped String → List CallEvent → Prop
  | native (hnative : target.ticker = settings.nativeTicker) :
      ComesTo panel settings fast target place (.ok (toString fast)) []
  | priced {lookups : List CallEvent} {assetPrice nativePrice : Double} {amount : String}
      (hforeign : target.ticker ≠ settings.nativeTicker)
      (hlookups : ∀ event ∈ lookups, IsLookupEvent settings target place event)
      (hasked : ∀ side, .asked ⟨place, side⟩ (configuredPair settings target side) ∈ lookups)
      (hasset : panel.quote place .first (configuredPair settings target .first) = .ok assetPrice)
      (hnative : panel.quote place .second (configuredPair settings target .second) =
        .ok nativePrice)
      (hamount : denominate fast nativePrice assetPrice target.decimals
        settings.nativeUnitDecimals = .ok amount) :
      ComesTo panel settings fast target place (.ok amount) lookups
  | missing {lookups : List CallEvent} {cause : Skipped}
      (hforeign : target.ticker ≠ settings.nativeTicker)
      (hlookups : ∀ event ∈ lookups, IsLookupEvent settings target place event)
      (hasked : ∃ side, .asked ⟨place, side⟩ (configuredPair settings target side) ∈ lookups)
      (hmissing : Missing panel settings fast target place cause) :
      ComesTo panel settings fast target place (.error cause) lookups

variable {panel : Panel} {settings : GasSettings} {fast place : Nat} {target : TargetAsset}

theorem isNative_iff_of_isNormal (hnormal : settings.IsNormal)
    (htarget : target ∈ settings.targets) :
    isNative settings target.ticker = true ↔ target.ticker = settings.nativeTicker := by
  have hticker := hnormal.targetTickers target htarget
  rw [isNative, beq_iff_eq, hticker.trim_eq, hnormal.nativeTicker.trim_eq,
    hticker.asciiLower_eq_iff hnormal.nativeTicker]

theorem neededPairs_of_isNormal (hnormal : settings.IsNormal)
    (htarget : target ∈ settings.targets) :
    neededPairs settings target.ticker =
      .ok (configuredPair settings target .first, configuredPair settings target .second) := by
  rw [neededPairs, (hnormal.targetTickers target htarget).pair_of hnormal.quoteTicker,
    hnormal.nativeTicker.pair_of hnormal.quoteTicker]
  rfl

/-! ### Conversions -/

/-- A price that does not become a decimal number is rejected as it is. -/
theorem decimalPrice_eq_error_iff {role : PriceRole} {price : Double} {cause : ConversionError} :
    decimalPrice role price = .error cause ↔
      .invalidPrice role price = cause ∧ ∀ x, decimalPrice role price ≠ .ok x := by
  cases hdecimal : decimalPrice role price with
  | ok x => simp
  | error error =>
    have herror : .invalidPrice role price = error := by
      unfold decimalPrice at hdecimal
      split at hdecimal
      · exact Except.error.inj hdecimal
      · split at hdecimal
        · split at hdecimal
          · exact Except.error.inj hdecimal
          · cases hdecimal
        · exact Except.error.inj hdecimal
    simp [herror]

/-- Where the shift is in range, a conversion fails for one of the prices or because it
    overflows. -/
theorem denominate_eq_error_iff {assetDecimals nativeUnitDecimals : Nat}
    {nativePrice assetPrice : Double} {power : Decimal}
    (hpower : powerOfTen ((assetDecimals : Int) - nativeUnitDecimals) = .ok power)
    {cause : ConversionError} :
    denominate fast nativePrice assetPrice assetDecimals nativeUnitDecimals = .error cause ↔
      decimalPrice .native nativePrice = .error cause ∨
        ∃ native, decimalPrice .native nativePrice = .ok native ∧
          (decimalPrice .asset assetPrice = .error cause ∨
            ∃ asset, decimalPrice .asset assetPrice = .ok asset ∧
              amount? fast native asset power = none ∧ .overflow = cause) := by
  simp only [denominate, hpower, bind_eq_error_iff, reduceCtorEq, false_or, Except.ok.injEq,
    exists_eq_left']
  refine or_congr_right (exists_congr fun native => and_congr_right fun _ => or_congr_right
    (exists_congr fun asset => and_congr_right fun _ => ?_))
  cases amount? fast native asset power <;> simp

/-- A quote that is rejected does not become a decimal number other than zero, as every quote is
    above zero. -/
theorem isZero_of_decimalPrice_eq_error {aggregator : Aggregator} {pair : TickerPair}
    {role : PriceRole} {price : Double} {cause : ConversionError}
    (hquote : aggregator.quote pair = .ok price) (h : decimalPrice role price = .error cause) :
    ∀ x, Decimal.ofDouble? price = some x → x.isZero = true := by
  intro x hx
  by_contra hzero
  have hfinite : price.isFinite = true := by
    by_contra hinfinite
    simp [Decimal.ofDouble?, hinfinite] at hx
  have husable : isUsablePrice price = true :=
    Bool.and_eq_true_iff.2 ⟨hfinite, (Aggregator.quote_between hquote).1⟩
  have hok : decimalPrice role price = .ok x :=
    decimalPrice_eq_ok_iff.2 ⟨husable, hx, Bool.eq_false_iff.2 hzero⟩
  rw [hok] at h
  cases h

/-- The conversion of two quotes that fails is one of the reasons that are left. -/
theorem missing_of_denominate (hnormal : settings.IsNormal) (htarget : target ∈ settings.targets)
    {assetPrice nativePrice : Double}
    (hasset : panel.quote place .first (configuredPair settings target .first) = .ok assetPrice)
    (hnative : panel.quote place .second (configuredPair settings target .second) = .ok nativePrice)
    {cause : ConversionError}
    (h : denominate fast nativePrice assetPrice target.decimals settings.nativeUnitDecimals =
      .error cause) :
    Missing panel settings fast target place (.conversion cause) := by
  have hdecimals := hnormal.targetDecimals target htarget
  have hnativeDecimals := hnormal.nativeDecimals
  obtain ⟨power, hpower⟩ :=
    exists_powerOfTen ((target.decimals : Int) - settings.nativeUnitDecimals) (by omega)
  rcases (denominate_eq_error_iff hpower).1 h with
    hrejected | ⟨native, hnativeDecimal, hrejected | ⟨asset, hassetDecimal, hamount, rfl⟩⟩
  · obtain ⟨rfl, -⟩ := decimalPrice_eq_error_iff.1 hrejected
    exact .unconvertible hnative (isZero_of_decimalPrice_eq_error hnative hrejected)
  · obtain ⟨rfl, -⟩ := decimalPrice_eq_error_iff.1 hrejected
    exact .unconvertible hasset (isZero_of_decimalPrice_eq_error hasset hrejected)
  · exact .overflow hasset hnative (decimalPrice_eq_ok_iff.1 hassetDecimal).2
      (decimalPrice_eq_ok_iff.1 hnativeDecimal).2 hpower hamount

/-- Whatever a target of a loaded configuration is left out for is one of the reasons that are
    left. -/
theorem LeftOut.missing (hnormal : settings.IsNormal) (htarget : target ∈ settings.targets)
    {cause : Skipped} (h : LeftOut panel settings fast target place cause) :
    Missing panel settings fast target place cause := by
  have hconfigured := neededPairs_of_isNormal hnormal htarget
  cases h with
  | ticker hpairs =>
    rw [hconfigured] at hpairs
    cases hpairs
  | noQuote hpairs hquote =>
    rw [hconfigured] at hpairs
    cases hpairs
    exact hquote.elim .noQuote .noQuote
  | conversion hpairs hasset hnative hconversion =>
    rw [hconfigured] at hpairs
    cases hpairs
    exact missing_of_denominate hnormal htarget hasset hnative hconversion

theorem amount?_of_native (hnormal : settings.IsNormal) (htarget : target ∈ settings.targets)
    (hnative : target.ticker = settings.nativeTicker) :
    panel.amount? settings fast target place = some (toString fast) := by
  rw [Panel.amount?, if_pos ((isNative_iff_of_isNormal hnormal htarget).2 hnative)]

/-- A target other than the chain's own coin has an amount if both quotes are there and can be
    converted. -/
theorem amount?_eq_some_iff_of_isNormal (hnormal : settings.IsNormal)
    (htarget : target ∈ settings.targets) (hforeign : target.ticker ≠ settings.nativeTicker)
    {amount : String} :
    panel.amount? settings fast target place = some amount ↔
      ∃ assetPrice nativePrice,
        panel.quote place .first (configuredPair settings target .first) = .ok assetPrice ∧
        panel.quote place .second (configuredPair settings target .second) = .ok nativePrice ∧
        denominate fast nativePrice assetPrice target.decimals settings.nativeUnitDecimals =
          .ok amount := by
  have hnotNative : isNative settings target.ticker = false := by
    rw [← Bool.not_eq_true, isNative_iff_of_isNormal hnormal htarget]
    exact hforeign
  rw [Panel.amount?_of_neededPairs _ _ _ hnotNative (neededPairs_of_isNormal hnormal htarget)]
  cases panel.quote place .first (configuredPair settings target .first) with
  | error cause => simp [bothPrices?]
  | ok assetPrice =>
    cases panel.quote place .second (configuredPair settings target .second) with
    | error cause => simp [bothPrices?]
    | ok nativePrice =>
      simp only [bothPrices?, Option.bind_some, Except.ok.injEq, exists_and_left, exists_eq_left']
      cases denominate fast nativePrice assetPrice target.decimals settings.nativeUnitDecimals <;>
        simp [Except.toOption]

/-- Each of the reasons keeps a target from having an amount, and without any of them it has one. -/
theorem amount?_eq_none_iff_of_isNormal (hnormal : settings.IsNormal)
    (htarget : target ∈ settings.targets) :
    panel.amount? settings fast target place = none ↔
      target.ticker ≠ settings.nativeTicker ∧ ∃ cause,
        Missing panel settings fast target place cause := by
  by_cases hforeign : target.ticker = settings.nativeTicker
  · rw [amount?_of_native hnormal htarget hforeign]
    simp [hforeign]
  · simp only [Option.eq_none_iff_forall_ne_some, ne_eq, hforeign, not_false_eq_true, true_and,
      amount?_eq_some_iff_of_isNormal hnormal htarget hforeign]
    constructor
    · intro hnone
      cases hasset : panel.quote place .first (configuredPair settings target .first) with
      | error cause => exact ⟨_, .noQuote hasset⟩
      | ok assetPrice =>
        cases hnative : panel.quote place .second (configuredPair settings target .second) with
        | error cause => exact ⟨_, .noQuote hnative⟩
        | ok nativePrice =>
          cases hconversion :
              denominate fast nativePrice assetPrice target.decimals
                settings.nativeUnitDecimals with
          | ok amount => exact absurd ⟨_, _, hasset, hnative, hconversion⟩ (hnone amount)
          | error cause =>
            exact ⟨_, missing_of_denominate hnormal htarget hasset hnative hconversion⟩
    · rintro ⟨cause, hmissing⟩ amount ⟨assetPrice, nativePrice, hasset, hnative, hconversion⟩
      obtain ⟨native, asset, power, found, hnativeDecimal, hassetDecimal, hpower, hfound, -⟩ :=
        denominate_eq_ok_iff.1 hconversion
      obtain ⟨-, hnativeDecimal, hnativeNonzero⟩ := decimalPrice_eq_ok_iff.1 hnativeDecimal
      obtain ⟨-, hassetDecimal, hassetNonzero⟩ := decimalPrice_eq_ok_iff.1 hassetDecimal
      cases hmissing with
      | @noQuote side cause hquote =>
        cases side with
        | first => simp [hasset] at hquote
        | second => simp [hnative] at hquote
      | @unconvertible role price hquote hdecimal =>
        cases role with
        | native =>
          obtain rfl := Except.ok.inj (hquote.symm.trans hnative)
          simp [hdecimal _ hnativeDecimal] at hnativeNonzero
        | asset =>
          obtain rfl := Except.ok.inj (hquote.symm.trans hasset)
          simp [hdecimal _ hassetDecimal] at hassetNonzero
      | overflow hasset' hnative' hassetDecimal' hnativeDecimal' hpower' hamount =>
        obtain rfl := Except.ok.inj (hasset'.symm.trans hasset)
        obtain rfl := Except.ok.inj (hnative'.symm.trans hnative)
        obtain rfl := Option.some.inj (hassetDecimal'.1.symm.trans hassetDecimal)
        obtain rfl := Option.some.inj (hnativeDecimal'.1.symm.trans hnativeDecimal)
        obtain rfl := Except.ok.inj (hpower'.symm.trans hpower)
        rw [hamount] at hfound
        cases hfound

/-! ### Targets one by one -/

namespace Call

variable {course : Course} {progress next : Progress}

/-- What the lookups of a target do, they do for the two pairs as configured. -/
theorem isLookupEvent_of_isLookup (hnormal : settings.IsNormal)
    (htarget : target ∈ settings.targets) {event : CallEvent}
    (h : IsLookup panel settings target place event) :
    IsLookupEvent settings target place event := by
  have hconfigured := neededPairs_of_isNormal hnormal htarget
  cases h with
  | asked hpairs side =>
    rw [hconfigured] at hpairs
    cases hpairs
    cases side with
    | first => exact ⟨.first, .inl rfl⟩
    | second => exact ⟨.second, .inl rfl⟩
  | lookedUp hpairs side => exact ⟨side, .inr ⟨_, rfl⟩⟩

/-- A target other than the chain's own coin is looked up: the sources are asked for one of its
    pairs at least, and for both if it has an amount. -/
theorem asked_of_amount (hnormal : settings.IsNormal) (htarget : target ∈ settings.targets)
    (hforeign : target.ticker ≠ settings.nativeTicker) {outcome : Except Skipped String}
    {lookups : List CallEvent}
    (h : (amount course settings fast target place).run progress = .ok (outcome, next))
    (hevents : next.events = progress.events ++ lookups) :
    (∃ side, .asked ⟨place, side⟩ (configuredPair settings target side) ∈ lookups) ∧
      ∀ amount, outcome = .ok amount →
        ∀ side, .asked ⟨place, side⟩ (configuredPair settings target side) ∈ lookups := by
  have hnotNative := mt (isNative_iff_of_isNormal hnormal htarget).1 hforeign
  rw [amount, if_neg hnotNative, neededPairs_of_isNormal hnormal htarget] at h
  obtain ⟨prices, middle, hlookUp, hpure⟩ := run_bind_eq_ok_iff.1 h
  obtain ⟨rfl, rfl⟩ := run_pure_eq_ok_iff.1 hpure
  obtain ⟨race, -, hasked, hprices, hrace⟩ := race_of_lookUp hlookUp
  obtain rfl := List.append_cancel_left (hevents.symm.trans hrace)
  let inquiry := course.panel.inquiry place (configuredPair settings target .first)
    (configuredPair settings target .second)
  have hside : ∀ side quote, race.quote? side = some quote →
      .asked ⟨place, side⟩ (configuredPair settings target side) ∈
        race.events.map (eventOf place inquiry) := by
    intro side quote hquote
    refine List.mem_map.2 ⟨_, hasked.of_quote? hquote, ?_⟩
    cases side <;> rfl
  cases prices with
  | ok prices =>
    obtain ⟨hfirst, hsecond⟩ := Race.outcome?_eq_ok_iff.1 hprices
    refine ⟨⟨.first, hside .first _ hfirst⟩, fun amount _ side => ?_⟩
    cases side with
    | first => exact hside .first _ hfirst
    | second => exact hside .second _ hsecond
  | error cause =>
    obtain ⟨side, hquote⟩ := Race.quote?_of_outcome?_error hprices
    exact ⟨⟨side, hside side _ hquote⟩, by simp [amountAt]⟩

/-- What comes of a target of a loaded configuration. -/
theorem comesTo_of_amount (hnormal : settings.IsNormal) (htarget : target ∈ settings.targets)
    {outcome : Except Skipped String}
    (h : (amount course settings fast target place).run progress = .ok (outcome, next)) :
    ∃ lookups, next.events = progress.events ++ lookups ∧
      ComesTo course.panel settings fast target place outcome lookups := by
  obtain ⟨houtcome, lookups, hevents, hlookups, hnoLookups, hleftOut⟩ := run_amount h
  refine ⟨lookups, hevents, ?_⟩
  by_cases hforeign : target.ticker = settings.nativeTicker
  · have hnative := (isNative_iff_of_isNormal hnormal htarget).2 hforeign
    obtain rfl := hnoLookups hnative
    obtain rfl : outcome = .ok (toString fast) := by
      rw [amount?_of_native hnormal htarget hforeign] at houtcome
      cases outcome with
      | error cause => cases houtcome
      | ok amount => rw [Option.some.inj houtcome]
    exact .native hforeign
  · obtain ⟨hasked, hbothAsked⟩ := asked_of_amount hnormal htarget hforeign h hevents
    have hconfigured : ∀ event ∈ lookups, IsLookupEvent settings target place event :=
      fun event hevent => isLookupEvent_of_isLookup hnormal htarget (hlookups event hevent)
    cases outcome with
    | error cause =>
      exact .missing hforeign hconfigured hasked ((hleftOut cause rfl).2.missing hnormal htarget)
    | ok amount =>
      obtain ⟨assetPrice, nativePrice, hasset, hnative, hconversion⟩ :=
        (amount?_eq_some_iff_of_isNormal hnormal htarget hforeign).1 houtcome.symm
      exact .priced hforeign hconfigured (hbothAsked amount rfl) hasset hnative hconversion

theorem exists_run_amount (hfair : course.IsFair)
    (hdeadline : progress.clock + course.panel.timeout < clockEnd) :
    ∃ outcome next,
      (amount course settings fast target place).run progress = .ok (outcome, next) := by
  cases hrun : (amount course settings fast target place).run progress with
  | ok result => exact ⟨result.1, result.2, rfl⟩
  | error halt =>
    obtain ⟨-, hend⟩ := halt_amount hfair hrun
    omega

/-- A warning that a target is skipped gives one of the reasons that are left. -/
theorem missing_of_skipped (hnormal : settings.IsNormal) {items : List (TargetAsset × Nat)}
    (htargets : ∀ item ∈ items, item.1 ∈ settings.targets) {parts : List (List CallEvent)}
    (hparts : List.Forall₂ (fun item part => TargetEvents panel settings fast item.1 item.2 part)
      items parts)
    {warning : LogLine} (h : .skipped place warning ∈ parts.flatten) :
    ∃ target cause, (target, place) ∈ items ∧ Missing panel settings fast target place cause ∧
      warning = skippedLine target cause := by
  have hlookup : ∀ {target : TargetAsset} {other : Nat},
      ¬ IsLookup panel settings target other (.skipped place warning) := by
    intro target other h
    cases h
  induction hparts with
  | nil => cases h
  | @cons item part items parts hpart _ ih =>
    rw [List.forall_mem_cons] at htargets
    rw [List.flatten_cons] at h
    rcases List.mem_append.1 h with hmem | hmem
    · cases hpart with
      | native => cases hmem
      | priced _ hlookups => exact absurd (hlookups _ hmem) hlookup
      | leftOut _ hlookups _ hcause =>
        rcases List.mem_append.1 hmem with hmem | hmem
        · exact absurd (hlookups _ hmem) hlookup
        · cases List.mem_singleton.1 hmem
          exact ⟨_, _, List.mem_cons_self, hcause.missing hnormal htargets.1, rfl⟩
    · obtain ⟨target, cause, hitem, hmissing, hwarning⟩ := ih htargets.2 hmem
      exact ⟨target, cause, List.mem_cons_of_mem _ hitem, hmissing, hwarning⟩

end Call

open Call

/-- Whatever a loaded configuration is denominated with, no target fails because of a ticker or of a
    shift that is out of range. The chain's own coin is exactly the target with its ticker, and is
    never looked up; any other is looked up with the tickers as configured. So a row is missing if
    and only if there is no quote for one of the two pairs, one of the quotes does not become a
    decimal number other than zero, or the conversion overflows, and that is what is told. -/
theorem amount_of_isLoaded {configuration : Configuration} (hloaded : configuration.IsLoaded)
    (course : Course) :
    (∀ fast place progress, ∀ target ∈ configuration.gas.targets,
      (isNative configuration.gas target.ticker = true ↔
        target.ticker = configuration.gas.nativeTicker) ∧
      (course.IsFair → progress.clock + course.panel.timeout < clockEnd → ∃ outcome next,
        (Call.amount course configuration.gas fast target place).run progress =
          .ok (outcome, next)) ∧
      ∀ outcome next, (Call.amount course configuration.gas fast target place).run progress =
        .ok (outcome, next) →
        (∀ cause, outcome ≠ .error (.ticker cause)) ∧
        (∀ shift, outcome ≠ .error (.conversion (.shiftOutOfRange shift))) ∧
        ∃ lookups, next.events = progress.events ++ lookups ∧
          ComesTo course.panel configuration.gas fast target place outcome lookups) ∧
    ∀ now tiers rows last, course.gas.outcome = .ok tiers →
      course.call configuration.gas now = .ok (.ok rows, last) →
      rows = configuration.gas.targets.zipIdx.filterMap
        (course.panel.row? configuration.gas tiers.fast) ∧
      (∀ target place, (target, place) ∈ configuration.gas.targets.zipIdx →
        (course.panel.row? configuration.gas tiers.fast (target, place) = none ↔
          target.ticker ≠ configuration.gas.nativeTicker ∧
            ∃ cause, Missing course.panel configuration.gas tiers.fast target place cause)) ∧
      ∀ place warning, .skipped place warning ∈ last.events →
        ∃ target cause, (target, place) ∈ configuration.gas.targets.zipIdx ∧
          Missing course.panel configuration.gas tiers.fast target place cause ∧
          warning = skippedLine target cause := by
  have hnormal := hloaded.isNormal
  constructor
  · intro fast place progress target htarget
    refine ⟨isNative_iff_of_isNormal hnormal htarget, exists_run_amount, ?_⟩
    intro outcome next hrun
    obtain ⟨lookups, hevents, hcomesTo⟩ := comesTo_of_amount hnormal htarget hrun
    refine ⟨?_, ?_, lookups, hevents, hcomesTo⟩
    · rintro cause rfl
      cases hcomesTo with
      | missing _ _ _ hmissing => cases hmissing
    · rintro shift rfl
      cases hcomesTo with
      | missing _ _ _ hmissing => cases hmissing
  · intro now tiers rows last hgas hcall
    obtain ⟨_, parts, hresult, rfl, hevents, hparts⟩ := (denominated_of_ok hcall).2 tiers hgas
    obtain rfl := Except.ok.inj hresult
    refine ⟨rfl, ?_, ?_⟩
    · intro target place hitem
      rw [Panel.row?, Option.map_eq_none_iff]
      exact amount?_eq_none_iff_of_isNormal hnormal (List.fst_mem_of_mem_zipIdx hitem)
    · intro place warning hskipped
      refine missing_of_skipped hnormal
        (fun item hitem => List.fst_mem_of_mem_zipIdx hitem) hparts ?_
      simpa [hevents] using hskipped

/-- A text with tickers that are not in normal form. -/
def looseText : String :=
  "[gas]\nnative_ticker = \x22 eth\x22\n" ++
    "[[gas.target_assets]]\nticker = \x22Eth \x22\ndecimals = 18\n" ++
    "[[gas.target_assets]]\nticker = \x22doge\x22\ndecimals = 8\n"

/-- The chain's own coin is not looked up, and a coin that no source lists has no row. -/
theorem amount_of_isLoaded_loose :
    ∃ configuration, Configuration.ofText looseText = .ok configuration ∧
      (∃ next, (Call.amount venueCourse configuration.gas 30 ⟨"ETH", 18⟩ 0).run { clock := 7 } =
        .ok (.ok "30", next) ∧ next.events = []) ∧
      ∃ cause next,
        (Call.amount venueCourse configuration.gas 30 ⟨"DOGE", 8⟩ 1).run { clock := 7 } =
        .ok (.error cause, next) ∧
        Missing venueCourse.panel configuration.gas 30 ⟨"DOGE", 8⟩ 1 cause := by
  have hloaded : Configuration.ofText looseText =
      .ok { gas := { targets := [⟨"ETH", 18⟩, ⟨"DOGE", 8⟩] } } := by
    decide +kernel
  obtain ⟨htarget, -⟩ := amount_of_isLoaded (.ofText hloaded) venueCourse
  refine ⟨_, hloaded, ?_, ?_⟩
  · obtain ⟨-, hends, hbrings⟩ := htarget 30 0 { clock := 7 } ⟨"ETH", 18⟩ (by decide)
    obtain ⟨outcome, next, hrun⟩ := hends isFair_venueCourse (by decide +kernel)
    obtain ⟨-, -, lookups, hevents, hcomesTo⟩ := hbrings outcome next hrun
    cases hcomesTo with
    | native => exact ⟨next, hrun, hevents⟩
    | priced hforeign => exact absurd rfl hforeign
    | missing hforeign => exact absurd rfl hforeign
  · obtain ⟨-, hends, hbrings⟩ := htarget 30 1 { clock := 7 } ⟨"DOGE", 8⟩ (by decide)
    obtain ⟨outcome, next, hrun⟩ := hends isFair_venueCourse (by decide +kernel)
    obtain ⟨-, -, lookups, -, hcomesTo⟩ := hbrings outcome next hrun
    cases hcomesTo with
    | native hnative => simp at hnative
    | priced _ _ _ hasset =>
      have hunlisted : (venueCourse.panel.quote 1 .first ⟨"DOGE", "USD"⟩).toOption = none := by
        decide +kernel
      rw [show venueCourse.panel.quote 1 .first ⟨"DOGE", "USD"⟩ = _ from hasset] at hunlisted
      cases hunlisted
    | missing _ _ _ hmissing => exact ⟨_, next, hrun, hmissing⟩

end Denomination
end FeeOracle
