import FeeOracle.Aggregator.Join
import FeeOracle.Aggregator.Round

/-!
# Two lookups as they go

Two lookups are asked for together. In which order they are begun and their sources are looked at is
up to whoever looks, but no time goes by before both are begun, and then it goes by for both alike.
The first lookup that ends without a quote decides, and from then on nobody looks at the other one;
otherwise both are seen to their end.
-/

namespace FeeOracle

/-- What is asked, and who is asked for it. -/
structure Inquiry where
  aggregator : Aggregator
  pair : TickerPair

/-- What happens to a lookup: its sources are asked, or it ends and its warnings are written. -/
inductive RaceEvent
  | asked (side : Side)
  | lookedUp (side : Side) (warnings : List LogLine)
deriving DecidableEq, Repr

/-- Two lookups at some time. One that is not begun yet has no round. -/
structure Race where
  inquiry : Side → Inquiry
  clock : Nat
  rounds : Side → Option Round := fun _ => none
  events : List RaceEvent := []

/-- What happens next to two lookups: one is begun, somebody looks at a source of one, or some time
    goes by. -/
inductive RaceTurn
  | ask (side : Side)
  | look (side : Side) (index : Nat)
  | wait (time : Nat)
deriving DecidableEq, Repr

namespace Round

/-- What the round comes to, once it is over. -/
def quote? (round : Round) : Option (Except NoQuote Double) :=
  round.readings?.map (·.quote round.pair)

/-- What is written about a lookup at its end. -/
def endEvents (round : Round) (side : Side) : List RaceEvent :=
  round.readings?.toList.map fun readings =>
    .lookedUp side (readings.failureWarnings round.pair ++ readings.quoteWarnings round.pair)

end Round

namespace Race

/-- What one of the two lookups comes to, once it has ended. -/
def quote? (race : Race) (side : Side) : Option (Except NoQuote Double) :=
  (race.rounds side).bind (·.quote?)

/-- What comes of the lookups: both quotes, or the failure of the first lookup that ends without
    one. -/
def outcome? (race : Race) : Option (Except NoQuote (Double × Double)) :=
  match race.quote? .first, race.quote? .second with
  | some (.error cause), _ => some (.error cause)
  | _, some (.error cause) => some (.error cause)
  | some (.ok x), some (.ok y) => some (.ok (x, y))
  | _, _ => none

/-- Puts a round in its place and notes what happened; the other lookup is left alone. -/
def put (race : Race) (side : Side) (round : Round) (events : List RaceEvent) : Race :=
  { race with
    rounds := fun other => if other = side then some round else race.rounds other
    events := race.events ++ events }

/-- Begins a lookup, unless it is begun already; there is no going on without a deadline. -/
def ask (race : Race) (side : Side) : Option Race :=
  match race.rounds side with
  | some _ => some race
  | none =>
    ((race.inquiry side).aggregator.round? race.clock (race.inquiry side).pair).map fun round =>
      race.put side round (.asked side :: round.endEvents side)

/-- Looks at a source of a lookup that is on its way. -/
def look (race : Race) (side : Side) (index : Nat) : Race :=
  match race.rounds side with
  | some round =>
    if round.isOver then race
    else
      let round := round.turn (.look index)
      race.put side round (round.endEvents side)
  | none => race

/-- Lets time go by, but not past a moment at which a source of either lookup responds or times
    out. -/
def wait (race : Race) (time : Nat) : Race :=
  match race.rounds .first, race.rounds .second with
  | some first, some second =>
    let moment := first.nextWake (second.nextWake (race.clock + time))
    { race with
      clock := moment
      rounds := fun side => (race.rounds side).map (·.turn (.wait (moment - race.clock))) }
  | _, _ => race

/-- Does what comes next. -/
def step (race : Race) : RaceTurn → Option Race
  | .ask side => race.ask side
  | .look side index => some (race.look side index)
  | .wait time => some (race.wait time)

/-- What comes next, unless it is decided what comes of the lookups. -/
def turn (race : Race) (turn : RaceTurn) : Option Race :=
  if race.outcome?.isSome then some race else race.step turn

/-- The race after some turns; none if a lookup was to begin without a deadline. -/
def run (race : Race) (turns : List RaceTurn) : Option Race := turns.foldlM turn race

end Race
end FeeOracle
