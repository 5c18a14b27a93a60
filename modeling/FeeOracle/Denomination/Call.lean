import FeeOracle.Aggregator.Race
import FeeOracle.Denomination.Rows

/-!
# Calls as they go

Expressing the gas price, step by step. The gas price is read first; then the targets are gone
through one after the other, and the two lookups of a target are under way together. The sources may
behave differently at every lookup, and any turns may see the lookups to their end. What the call
does to the world outside is noted in order.
-/

namespace FeeOracle.Denomination

/-- The place of a target, and one of its lookups: the first is that of its own price, the second
    that of the coin. -/
structure Occasion where
  place : Nat
  side : Side
deriving DecidableEq, Repr

/-- The sources as they behave at every lookup of a call, and how long they are waited for. -/
structure Panel where
  sources : Occasion → List Source
  timeout : Nat

/-- The sources at one lookup. -/
def Panel.during (panel : Panel) (occasion : Occasion) : Aggregator where
  sources := panel.sources occasion
  timeout := panel.timeout

/-- What is asked in the two lookups of the target at a place. -/
def Panel.inquiry (panel : Panel) (place : Nat) (assetPair nativePair : TickerPair) (side : Side) :
    Inquiry where
  aggregator := panel.during ⟨place, side⟩
  pair := match side with
    | .first => assetPair
    | .second => nativePair

/-- Sources that behave in the same way at every lookup. -/
def Panel.ofAggregator (aggregator : Aggregator) : Panel where
  sources := fun _ => aggregator.sources
  timeout := aggregator.timeout

/-- How the gas price provider responds. -/
structure GasResponse where
  delay : Nat
  outcome : Except GasError GasTiers

/-- What a call meets with: the gas price provider, the sources, and the turns that the lookups of
    each target take. -/
structure Course where
  gas : GasResponse
  panel : Panel
  turns : Nat → List RaceTurn

/-- What a call does to the world outside. -/
inductive CallEvent
  | gasRead
  | asked (occasion : Occasion) (pair : TickerPair)
  | lookedUp (occasion : Occasion) (warnings : List LogLine)
  | skipped (place : Nat) (warning : LogLine)
  | ended (line : LogLine)
deriving DecidableEq, Repr

/-- How far a call has come. -/
structure Progress where
  clock : Nat
  events : List CallEvent := []

/-- Why a call brings nothing: its lookups were not seen to their end, or one of them was to begin
    at a time for which there is no deadline. -/
inductive Halt
  | unfinished
  | noDeadline (clock : Nat)
deriving DecidableEq, Repr

/-- A part of a call. -/
abbrev Call := StateT Progress (Except Halt)

namespace Call

/-- Notes what the call does. -/
def note (event : CallEvent) : Call Unit :=
  modify fun progress => { progress with events := progress.events ++ [event] }

/-- Reads the gas price and waits until it is there. -/
def readGas (gas : GasResponse) : Call (Except GasError GasTiers) := do
  note .gasRead
  modify fun progress => { progress with clock := progress.clock + gas.delay }
  return gas.outcome

/-- An event of the lookups of a target as an event of the call. -/
def eventOf (place : Nat) (inquiry : Side → Inquiry) : RaceEvent → CallEvent
  | .asked side => .asked ⟨place, side⟩ (inquiry side).pair
  | .lookedUp side warnings => .lookedUp ⟨place, side⟩ warnings

/-- The two lookups of the target at a place. -/
def lookUp (course : Course) (place : Nat) (assetPair nativePair : TickerPair) :
    Call (Except NoQuote (Double × Double)) := fun progress =>
  let inquiry := course.panel.inquiry place assetPair nativePair
  match Race.run { inquiry, clock := progress.clock } (course.turns place) with
  | none => .error (.noDeadline progress.clock)
  | some race =>
    match race.outcome? with
    | none => .error .unfinished
    | some outcome =>
      .ok (outcome,
        { clock := race.clock
          events := progress.events ++ race.events.map (eventOf place inquiry) })

/-- The amount of the target at a place. -/
def amount (course : Course) (settings : GasSettings) (fast : Nat) (target : TargetAsset)
    (place : Nat) : Call (Except Skipped String) :=
  if isNative settings target.ticker then return .ok (toString fast)
  else
    match neededPairs settings target.ticker with
    | .error cause => return .error (.ticker cause)
    | .ok (assetPair, nativePair) => do
      let prices ← lookUp course place assetPair nativePair
      return amountAt settings fast target prices

/-- The rows of targets, each with its place. -/
def rows (course : Course) (settings : GasSettings) (fast : Nat) :
    List (TargetAsset × Nat) → Call (List Row)
  | [] => return []
  | (target, place) :: rest => do
    match ← amount course settings fast target place with
    | .ok amount =>
      let later ← rows course settings fast rest
      return { base := target.ticker, amount } :: later
    | .error cause =>
      note (.skipped place (skippedLine target cause))
      rows course settings fast rest

/-- Reads the gas price and expresses it in all targets. -/
def denominated (course : Course) (settings : GasSettings) :
    Call (Except ProviderUnavailable (List Row)) := do
  match ← readGas course.gas with
  | .error cause =>
    note (.ended (unavailableLine { cause }))
    return .error { cause }
  | .ok tiers =>
    let rows ← rows course settings tiers.fast settings.targets.zipIdx
    note (.ended (summaryLine settings tiers.fast rows))
    return .ok rows

end Call

/-- The call at a given time: what it brings, and how far it has come then. -/
def Course.call (course : Course) (settings : GasSettings) (now : Nat) :
    Except Halt (Except ProviderUnavailable (List Row) × Progress) :=
  (Call.denominated course settings).run { clock := now }

end FeeOracle.Denomination
