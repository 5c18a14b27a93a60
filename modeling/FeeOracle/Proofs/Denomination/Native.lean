import FeeOracle.Proofs.Configuration.Loaded
import FeeOracle.Proofs.Denomination.Call

/-!
# The chain's own coin

The coin is told by its ticker apart from the case of ASCII letters, and pairs have the normal forms
of tickers, which are in upper case throughout. A ticker that is taken for that of the coin always
has the same normal form (`normalTicker_eq_of_isNative`). The converse needs that no letter other
than those of ASCII changes its case (`isNative_iff_of_isAsciiCased`); a ticker with such a letter
is not even taken for its own normal form (`isNative_normalTicker_iff`). Then the sources are asked
for the same pair twice.
-/

namespace FeeOracle.Denomination

open Aggregator

variable {settings : GasSettings} {target : TargetAsset} {course : Course} {fast place : Nat}
  {progress next : Progress} {ticker native symbol nativeSymbol text : String}

/-! ### Two ways to compare tickers -/

/-- What a text is in upper case does not depend on the case of its ASCII letters. -/
theorem uppercase_asciiLower (text : String) :
    Text.uppercase (asciiLower text) = Text.uppercase text := by
  rw [Text.uppercase, Text.uppercase, asciiLower, String.toList_ofList, List.flatMap_map]
  exact congrArg String.ofList (List.flatMap_congr fun c _ => Text.uppercaseChar_toLower c)

/-- Upper case changes nothing but the case of ASCII letters if and only if there are no other
    letters to change. -/
theorem asciiLower_uppercase_iff :
    asciiLower (Text.uppercase text) = asciiLower text ↔ Text.IsAsciiCased text := by
  rw [asciiLower, asciiLower, Text.uppercase, String.toList_ofList, String.ofList_inj]
  constructor
  · intro hlower c hc
    have hmem : c.toLower ∈ (text.toList.flatMap Text.uppercaseChar).map Char.toLower := by
      rw [hlower]
      exact List.mem_map_of_mem hc
    obtain ⟨d, hd, hsame⟩ := List.mem_map.1 hmem
    obtain ⟨letter, -, hform⟩ := List.mem_flatMap.1 hd
    exact Text.isAsciiCasedChar_of_toLower_eq (Text.uppercaseChar_of_mem hform) hsame.symm
  · intro hcased
    rw [List.map_flatMap, List.flatMap_congr fun c hc => (hcased c hc).map_toLower_uppercaseChar,
      ← List.map_eq_flatMap]

theorem isNative_iff :
    isNative settings ticker = true ↔
    asciiLower (Text.trim ticker) = asciiLower (Text.trim settings.nativeTicker) := by
  rw [isNative, beq_iff_eq]

/-- A ticker that is taken for that of the chain's own coin has the same normal form. -/
theorem normalTicker_eq_of_isNative (h : isNative settings ticker = true) :
    normalTicker ticker = normalTicker settings.nativeTicker := by
  rw [normalTicker, normalTicker, ← uppercase_asciiLower, isNative_iff.1 h, uppercase_asciiLower]

/-- Where only ASCII letters change their case, it is enough to have the same normal form. -/
theorem isNative_iff_of_isAsciiCased (hticker : Text.IsAsciiCased (Text.trim ticker))
    (hnative : Text.IsAsciiCased (Text.trim settings.nativeTicker)) :
    isNative settings ticker = true ↔ normalTicker ticker = normalTicker settings.nativeTicker := by
  refine ⟨normalTicker_eq_of_isNative, fun hsame => ?_⟩
  rw [isNative_iff, ← asciiLower_uppercase_iff.2 hticker, ← asciiLower_uppercase_iff.2 hnative]
  exact congrArg asciiLower hsame

/-- A ticker is taken for its own normal form if and only if only ASCII letters change their
    case. -/
theorem isNative_normalTicker_iff :
    isNative { settings with nativeTicker := normalTicker ticker } ticker = true ↔
      Text.IsAsciiCased (Text.trim ticker) := by
  rw [isNative_iff, trim_normalTicker, normalTicker, ← asciiLower_uppercase_iff, eq_comm]

/-! ### What is looked up -/

namespace Call

/-- The amount is the gas price itself, without any lookup, exactly for the targets that are taken
    for the chain's own coin. -/
theorem run_amount_eq_iff :
    (amount course settings fast target place).run progress = .ok (.ok (toString fast), progress) ↔
      isNative settings target.ticker = true := by
  constructor
  · intro h
    obtain ⟨hnative, -, -⟩
        | ⟨-, ⟨cause, -, hcause, -⟩ | ⟨assetPair, nativePair, prices, -, hlookUp, hamount⟩⟩ :=
      amount_cases h
    · exact hnative
    · cases hcause
    · obtain ⟨race, -, hasked, hprices, hevents⟩ := race_of_lookUp hlookUp
      have hnone : race.events = [] := List.map_eq_nil_iff.1 (List.self_eq_append_right.1 hevents)
      -- An amount takes both prices, and a price takes a lookup that has begun.
      cases prices with
      | error cause => cases hamount
      | ok prices =>
        have hmem := hasked.of_quote? (Race.outcome?_eq_ok_iff.1 hprices).1
        rw [hnone] at hmem
        cases hmem
  · intro hnative
    rw [amount, if_pos hnative]
    rfl

end Call

/-- The pair that a lookup of a target is for: its tickers are in normal form. -/
theorem pair_of_isLookup {panel : Panel} {side : Side} {pair : TickerPair}
    (hsymbol : normalizeTicker target.ticker = .ok symbol)
    (hnativeSymbol : normalizeTicker settings.nativeTicker = .ok nativeSymbol)
    (h : IsLookup panel settings target place (.asked ⟨place, side⟩ pair)) :
    normalizeTicker settings.quoteTicker = .ok pair.quote ∧
      pair.base = match side with
        | .first => symbol
        | .second => nativeSymbol := by
  cases h with
  | asked hpairs =>
    simp only [neededPairs, TickerPair.of, hsymbol, hnativeSymbol, bind_eq_ok_iff, Except.ok.injEq,
      exists_eq_left', Prod.mk.injEq] at hpairs
    obtain ⟨_, ⟨quote, hquote, rfl⟩, _, ⟨other, hother, rfl⟩, rfl, rfl⟩ := hpairs
    cases side with
    | first => exact ⟨hquote, rfl⟩
    | second => exact ⟨hother, rfl⟩

/-- Both lookups of a target are for the same pair if and only if the target has the symbol of the
    chain's own coin. -/
theorem pair_eq_iff_of_isLookup {panel : Panel} {assetPair nativePair : TickerPair}
    (hsymbol : normalizeTicker target.ticker = .ok symbol)
    (hnativeSymbol : normalizeTicker settings.nativeTicker = .ok nativeSymbol)
    (hasset : IsLookup panel settings target place (.asked ⟨place, .first⟩ assetPair))
    (hnative : IsLookup panel settings target place (.asked ⟨place, .second⟩ nativePair)) :
    assetPair = nativePair ↔ symbol = nativeSymbol := by
  obtain ⟨hquote, rfl⟩ := pair_of_isLookup hsymbol hnativeSymbol hasset
  obtain ⟨hnativeQuote, rfl⟩ := pair_of_isLookup hsymbol hnativeSymbol hnative
  have hsame : assetPair.quote = nativePair.quote := Except.ok.inj (hquote.symm.trans hnativeQuote)
  cases assetPair
  cases nativePair
  rw [TickerPair.mk.injEq, and_iff_left hsame]

/-- The two ways to compare a target with the chain's own coin agree: the amount is the gas price
    itself, without any lookup, if and only if both have the same symbol; and the two lookups of a
    target are never for the same pair. -/
structure TellsNative (settings : GasSettings) (target : TargetAsset)
    (symbol nativeSymbol : String) : Prop where
  shortcut : ∀ course fast place progress,
    (Call.amount course settings fast target place).run progress =
      .ok (.ok (toString fast), progress) ↔
      symbol = nativeSymbol
  lookups : ∀ course fast place progress outcome next,
    (Call.amount course settings fast target place).run progress = .ok (outcome, next) →
      ∃ lookups, next.events = progress.events ++ lookups ∧ ∀ assetPair nativePair,
        .asked ⟨place, .first⟩ assetPair ∈ lookups → .asked ⟨place, .second⟩ nativePair ∈ lookups →
          assetPair ≠ nativePair

/-- They agree if and only if the target is taken for the coin whenever both have the same
    symbol. -/
theorem tellsNative_iff (hsymbol : normalizeTicker target.ticker = .ok symbol)
    (hnativeSymbol : normalizeTicker settings.nativeTicker = .ok nativeSymbol) :
    TellsNative settings target symbol nativeSymbol ↔
      (isNative settings target.ticker = true ↔ symbol = nativeSymbol) := by
  constructor
  · intro h
    rw [← h.shortcut ⟨⟨0, .ok ⟨0, 0, 0⟩⟩, .ofAggregator ⟨[], 0⟩, fun _ => []⟩ 0 0 { clock := 0 },
      Call.run_amount_eq_iff]
  · intro hiff
    refine ⟨fun course fast place progress => Call.run_amount_eq_iff.trans hiff, ?_⟩
    intro course fast place progress outcome next hrun
    obtain ⟨-, lookups, hevents, hlookups, hnone, -⟩ := Call.run_amount hrun
    refine ⟨lookups, hevents, fun assetPair nativePair hasset hnative hsame => ?_⟩
    rw [pair_eq_iff_of_isLookup hsymbol hnativeSymbol (hlookups _ hasset)
      (hlookups _ hnative)] at hsame
    rw [hnone (hiff.2 hsame)] at hasset
    cases hasset

/-- A normal form has no letter that would change its case. -/
theorem isAsciiCased_normalTicker (ticker : String) : Text.IsAsciiCased (normalTicker ticker) := by
  intro c hc
  obtain ⟨letter, hform⟩ := exists_of_mem_normalTicker hc
  exact .inr (Text.uppercaseChar_of_mem hform)

/-- In a loaded configuration all tickers are in normal form, so every target is told from the
    chain's own coin. -/
theorem tellsNative_of_isNormal (hnormal : settings.IsNormal)
    (htarget : target ∈ settings.targets) :
    TellsNative settings target target.ticker settings.nativeTicker := by
  have hticker := hnormal.targetTickers target htarget
  have hnative := hnormal.nativeTicker
  rw [tellsNative_iff hticker.normalize_eq hnative.normalize_eq, isNative_iff_of_isAsciiCased,
    hticker.eq_normalTicker, hnative.eq_normalTicker]
  · rw [hticker.trim_eq, ← hticker.eq_normalTicker]
    exact isAsciiCased_normalTicker target.ticker
  · rw [hnative.trim_eq, ← hnative.eq_normalTicker]
    exact isAsciiCased_normalTicker settings.nativeTicker

/-- A target whose amount is the gas price itself, without any lookup, always has the symbol of the
    chain's own coin. The converse holds, and then no target is looked up with the same pair twice,
    as long as no letter but those of ASCII changes its case; and a ticker with such a letter is not
    told from its own symbol. -/
theorem tellsNative_of_isAsciiCased (settings : GasSettings) (target : TargetAsset)
    {symbol nativeSymbol : String} (hsymbol : normalizeTicker target.ticker = .ok symbol)
    (hnativeSymbol : normalizeTicker settings.nativeTicker = .ok nativeSymbol) :
    (∀ course fast place progress,
      (Call.amount course settings fast target place).run progress =
        .ok (.ok (toString fast), progress) →
        symbol = nativeSymbol) ∧
    (Text.IsAsciiCased (Text.trim target.ticker) →
    Text.IsAsciiCased (Text.trim settings.nativeTicker) →
      TellsNative settings target symbol nativeSymbol) ∧
    (TellsNative { settings with nativeTicker := symbol } target symbol symbol ↔
      Text.IsAsciiCased (Text.trim target.ticker)) := by
  obtain ⟨hnotBlank, rfl⟩ := normalizeTicker_eq_ok_iff.1 hsymbol
  obtain ⟨-, rfl⟩ := normalizeTicker_eq_ok_iff.1 hnativeSymbol
  refine ⟨?_, ?_, ?_⟩
  · intro course fast place progress hrun
    exact normalTicker_eq_of_isNative (Call.run_amount_eq_iff.1 hrun)
  · intro hticker hnative
    exact (tellsNative_iff hsymbol hnativeSymbol).2 (isNative_iff_of_isAsciiCased hticker hnative)
  · let own : GasSettings := { settings with nativeTicker := normalTicker target.ticker }
    have hown : normalizeTicker own.nativeTicker = .ok (normalTicker target.ticker) :=
      normalizeTicker_eq_ok_iff.2
        ⟨mt isBlankText_normalTicker_iff.1 hnotBlank, normalTicker_normalTicker target.ticker⟩
    rw [tellsNative_iff hsymbol hown, iff_true_right rfl, isNative_normalTicker_iff]

/-- Blanks, the case of ASCII letters and letters in upper case are no hindrance. -/
theorem tellsNative_of_isAsciiCased_mixed :
    TellsNative { nativeTicker := " Écu\t" } ⟨"ÉCu", 18⟩ "ÉCU" "ÉCU" := by
  have hsymbol : normalizeTicker "ÉCu" = .ok "ÉCU" := by decide +kernel
  have hnativeSymbol : normalizeTicker " Écu\t" = .ok "ÉCU" := by decide +kernel
  exact (tellsNative_of_isAsciiCased { nativeTicker := " Écu\t" }
    ⟨"ÉCu", 18⟩ hsymbol hnativeSymbol).2.1
    (by decide +kernel) (by decide +kernel)

/-- A coin with an accent, and a target with the same ticker in lower case. -/
def accentedSettings : GasSettings where
  nativeTicker := "É"
  targets := [⟨"é", 18⟩]

/-- A venue that has a price for one pair. -/
def accentedVenue : Aggregator where
  sources := [{
    name := "table"
    respond := fun pair =>
      { delay := some 0
        outcome :=
          if pair = ⟨"É", "USD"⟩ then .ok 2
            else .error (.unknownTicker "table" pair.base pair.quote) } }]
  timeout := 1000

/-- The two have the same symbol. Still the target is not told from another coin: the sources are
    asked for the same pair twice, and the gas price is converted at equal prices. -/
theorem same_symbol_looked_up_twice :
    normalizeTicker "é" = .ok "É" ∧ normalizeTicker accentedSettings.nativeTicker = .ok "É" ∧
      ¬ TellsNative accentedSettings ⟨"é", 18⟩ "É" "É" ∧
      (denominateTarget accentedVenue accentedSettings 30 ⟨"é", 18⟩).asked =
        [⟨"É", "USD"⟩, ⟨"É", "USD"⟩] ∧
      (denominateTarget accentedVenue accentedSettings 30 ⟨"é", 18⟩).amount.toOption =
        some "30000000000" := by
  have hsymbol : normalizeTicker "é" = .ok "É" := by decide +kernel
  have hnativeSymbol : normalizeTicker accentedSettings.nativeTicker = .ok "É" := by decide +kernel
  have hforeign : isNative accentedSettings "é" = false := by decide +kernel
  refine ⟨hsymbol, hnativeSymbol, ?_, by decide +kernel, by decide +kernel⟩
  rw [@tellsNative_iff accentedSettings ⟨"é", 18⟩ _ _ hsymbol hnativeSymbol, hforeign]
  decide

end FeeOracle.Denomination
