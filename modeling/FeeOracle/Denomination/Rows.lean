import FeeOracle.Aggregator.Join
import FeeOracle.Configuration.Basic
import FeeOracle.Denomination.Convert

/-!
# Rows

The fast tier of the gas price, expressed in every target asset: one row for each target that can be
priced, in the order in which the targets are configured. The chain's own coin needs no prices; for
any other target its price and that of the coin are looked up together. A target without a row gives
rise to a warning.
-/

namespace FeeOracle.Denomination

/-- An amount of a target asset. -/
structure Row where
  base : String
  amount : String
deriving DecidableEq, Repr

/-- Why a target has no row. -/
inductive Skipped
  | ticker (cause : TickerError)
  | noQuote (cause : NoQuote)
  | conversion (cause : ConversionError)
deriving DecidableEq, Repr

/-- The text of the reason. -/
def Skipped.message : Skipped → String
  | ticker cause => cause.message
  | noQuote cause => cause.message
  | conversion cause => cause.message

/-- The text with its ASCII letters in lower case; any other letter keeps its case. -/
def asciiLower (text : String) : String := String.ofList (text.toList.map Char.toLower)

/-- Is the ticker that of the chain's own coin, apart from blanks around it and the case of ASCII
    letters? -/
def isNative (settings : GasSettings) (ticker : String) : Bool :=
  asciiLower (Text.trim ticker) == asciiLower (Text.trim settings.nativeTicker)

/-- The pairs whose prices a target needs: its own, and that of the chain's coin. -/
def neededPairs (settings : GasSettings) (ticker : String) :
    Except TickerError (TickerPair × TickerPair) := do
  let asset ← TickerPair.of ticker settings.quoteTicker
  let native ← TickerPair.of settings.nativeTicker settings.quoteTicker
  .ok (asset, native)

/-- The amount of a target whose price and that of the coin have been looked up. -/
def amountAt (settings : GasSettings) (fast : Nat) (target : TargetAsset)
    (prices : Except NoQuote (Double × Double)) : Except Skipped String :=
  match prices with
  | .error cause => .error (.noQuote cause)
  | .ok (assetPrice, nativePrice) =>
    match denominate fast nativePrice assetPrice target.decimals settings.nativeUnitDecimals with
    | .ok amount => .ok amount
    | .error cause => .error (.conversion cause)

/-- What comes of a target: its amount or why there is none, the pairs that the sources were asked
    for, and the warnings of the lookups. -/
structure TargetOutcome where
  amount : Except Skipped String
  asked : List TickerPair
  warnings : List LogLine

/-- Expresses the gas price in one target. -/
def denominateTarget (aggregator : Aggregator) (settings : GasSettings) (fast : Nat)
    (target : TargetAsset) : TargetOutcome :=
  if isNative settings target.ticker then
    { amount := .ok (toString fast), asked := [], warnings := [] }
  else
    match neededPairs settings target.ticker with
    | .error cause => { amount := .error (.ticker cause), asked := [], warnings := [] }
    | .ok (assetPair, nativePair) =>
      let joined := aggregator.join assetPair nativePair
      { amount := amountAt settings fast target joined.outcome
        asked := aggregator.askedByJoin assetPair nativePair
        warnings := joined.warnings }

/-- The row of a target, if it has one. -/
def TargetOutcome.row? (outcome : TargetOutcome) (target : TargetAsset) : Option Row :=
  outcome.amount.toOption.map fun amount => { base := target.ticker, amount }

/-- The warning that a target has no row. -/
def skippedLine (target : TargetAsset) (cause : Skipped) : LogLine where
  level := .warn
  message := s!"⚠️  Skipping {target.ticker}: {cause.message}"

/-- The warnings about a target, with one more if it has no row. -/
def TargetOutcome.lines (outcome : TargetOutcome) (target : TargetAsset) : List LogLine :=
  match outcome.amount with
  | .ok _ => outcome.warnings
  | .error cause => outcome.warnings ++ [skippedLine target cause]

/-- What comes of all targets. -/
structure Table where
  rows : List Row
  asked : List TickerPair
  lines : List LogLine

/-- Expresses a gas price in all targets, one after the other. -/
def denominateAll (aggregator : Aggregator) (settings : GasSettings) (fast : Nat) : Table :=
  let outcomes := settings.targets.map fun target =>
    (target, denominateTarget aggregator settings fast target)
  { rows := outcomes.filterMap fun (target, outcome) => outcome.row? target
    asked := outcomes.flatMap fun (_, outcome) => outcome.asked
    lines := outcomes.flatMap fun (target, outcome) => outcome.lines target }

/-- The gas price could not be read, so nothing can be expressed. -/
structure ProviderUnavailable where
  cause : GasError
deriving DecidableEq, Repr

/-- The text of the error, which tells why the gas price could not be read. -/
def ProviderUnavailable.message (error : ProviderUnavailable) : String :=
  s!"gas price provider unavailable: {error.cause.message}"

/-- The line that says that there is no gas price. -/
def unavailableLine (error : ProviderUnavailable) : LogLine where
  level := .error
  message := s!"⛽ {error.message}"

/-- The line that sums up how many of the targets have a row. -/
def summaryLine (settings : GasSettings) (fast : Nat) (rows : List Row) : LogLine where
  level := .info
  message :=
    s!"⛽ Denominated {fast} gwei into {rows.length}/{settings.targets.length} target assets"

/-- What comes of reading the gas price and expressing it: the rows or why there are none, the pairs
    that the sources were asked for, and the log lines. -/
structure Report where
  rows : Except ProviderUnavailable (List Row)
  asked : List TickerPair
  lines : List LogLine

/-- Expresses the gas price, as it was read, in all targets. -/
def report (aggregator : Aggregator) (settings : GasSettings) (gas : Except GasError GasTiers) :
    Report :=
  match gas with
  | .error cause => { rows := .error { cause }, asked := [], lines := [unavailableLine { cause }] }
  | .ok tiers =>
    let table := denominateAll aggregator settings tiers.fast
    { rows := .ok table.rows
      asked := table.asked
      lines := table.lines ++ [summaryLine settings tiers.fast table.rows] }

end FeeOracle.Denomination
