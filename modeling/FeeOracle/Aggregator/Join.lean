import FeeOracle.Aggregator.Lookup

/-!
# Two lookups at once

Two lookups are asked for together, and the first failure that is noticed decides: then nobody waits
for the other lookup, and its warnings are never written. Both are looked at when they start and
whenever a source of either responds or times out, and with every look the one that is looked at
first changes. The second lookup is not even started if the first one fails at once.
-/

namespace FeeOracle

/-- One of two lookups. -/
inductive Side
  | first
  | second
deriving DecidableEq, Repr

/-- The lookup that is not this one. -/
def Side.other : Side → Side
  | first => second
  | second => first

/-- A lookup on its way. -/
structure Pending where
  finish : Nat
  wakes : List Nat
  outcome : Except NoQuote Double
  warnings : List LogLine

/-- The lookup of a pair, as it will go. -/
def Aggregator.pending (aggregator : Aggregator) (pair : TickerPair) : Pending where
  finish := aggregator.duration pair
  wakes := (aggregator.waits pair).filter (0 < ·)
  outcome := aggregator.quote pair
  warnings := aggregator.warnings pair

/-- What comes of two lookups: both quotes or the failure that was noticed first, and the
    warnings. -/
structure Joined where
  outcome : Except NoQuote (Double × Double)
  warnings : List LogLine

/-- What has been noticed: which lookups are done, and what has been written. -/
structure Noticed where
  done : Side → Bool := fun _ => false
  written : List LogLine := []

/-- Looks at a lookup: is it done, and what has been written? A failure ends everything. -/
def Noticed.look (lookups : Side → Pending) (time : Nat) (noticed : Noticed) (side : Side) :
    Except (NoQuote × List LogLine) Noticed :=
  if noticed.done side ∨ time < (lookups side).finish then .ok noticed
  else
    let written := noticed.written ++ (lookups side).warnings
    match (lookups side).outcome with
    | .ok _ => .ok { done := fun other => other == side || noticed.done other, written }
    | .error error => .error (error, written)

/-- Looks at two lookups at the given times; `leader` is the one that is looked at first the next
    time. -/
def joinAt (lookups : Side → Pending) (leader : Side) (noticed : Noticed) : List Nat → Joined
  | [] =>
    match (lookups .first).outcome, (lookups .second).outcome with
    | .ok x, .ok y => { outcome := .ok (x, y), warnings := noticed.written }
    | .error error, _ => { outcome := .error error, warnings := noticed.written }
    | _, .error error => { outcome := .error error, warnings := noticed.written }
  | time :: later =>
    match [leader, leader.other].foldlM (Noticed.look lookups time) noticed with
    | .error (error, written) => { outcome := .error error, warnings := written }
    | .ok noticed => joinAt lookups leader.other noticed later

/-- Puts a time at its place among ascending times; a time that is there already is not repeated. -/
def insertTime (time : Nat) : List Nat → List Nat
  | [] => [time]
  | other :: rest =>
    if time < other then time :: other :: rest
    else if time = other then other :: rest
    else other :: insertTime time rest

/-- The times at which two lookups are looked at: the start, and every time at which a source of
    either is done with, in order. -/
def lookTimes (lookups : Side → Pending) : List Nat :=
  0 :: ((lookups .first).wakes ++ (lookups .second).wakes).foldr insertTime []

/-- The lookups of two pairs. -/
def Aggregator.pendings (aggregator : Aggregator) (first second : TickerPair) : Side → Pending
  | .first => aggregator.pending first
  | .second => aggregator.pending second

/-- Both quotes of two pairs, or the failure that is noticed first. -/
def Aggregator.join (aggregator : Aggregator) (first second : TickerPair) : Joined :=
  let lookups := aggregator.pendings first second
  joinAt lookups .first {} (lookTimes lookups)

/-- The pairs that the sources are asked for by a join. -/
def Aggregator.askedByJoin (aggregator : Aggregator) (first second : TickerPair) :
    List TickerPair :=
  let failsAtOnce := aggregator.duration first = 0 ∧ (aggregator.quote first).toOption = none
  if failsAtOnce then [first] else [first, second]

end FeeOracle
