import FeeOracle.Aggregator.Lookup

/-!
# Rounds

A lookup as it goes. All sources are asked at once, and from then on somebody looks now at one
source and now at another, in any order and as often as they like, to see whether it is done with:
it is if its response is there, and otherwise if the deadline is. Time goes by between the looks,
but it never runs past a moment at which a source that is still waited for responds or times out,
because the round is woken then. The lookup ends when every source is done with, and what came of
each is reported in the order in which the sources are configured.
-/

namespace FeeOracle

/-- A source that was asked, and the answer that counts as soon as the source is done with. -/
structure Question where
  source : Source
  answer : Option (Except SourceError Double) := none

/-- A round of questions about one pair. -/
structure Round where
  pair : TickerPair
  begun : Nat
  deadline : Nat
  clock : Nat
  questions : List Question

/-- What happens next in a round: a look at one source, or some time goes by. -/
inductive Turn
  | look (index : Nat)
  | wait (time : Nat)
deriving DecidableEq, Repr

/-- Is the source still waited for? -/
def Question.isOpen (question : Question) : Bool := question.answer.isNone

namespace Round

/-- What a look at a source shows, if it shows that the source is done with. A response that is
    there counts even if the deadline is there too. -/
def seen? (round : Round) (source : Source) : Option (Except SourceError Double) :=
  let response := source.respond round.pair
  if response.inTime (round.clock - round.begun) then
    some (response.outcome.bind (validatePrice source.name))
  else if round.deadline ≤ round.clock then some (.error (.timeout source.name))
  else none

/-- A look at a source. Nobody looks again at a source that is done with. -/
def lookAt (round : Round) (question : Question) : Question :=
  if question.isOpen then { question with answer := round.seen? question.source } else question

/-- The moment at which a source responds or times out. -/
def due (round : Round) (source : Source) : Nat :=
  round.begun + (source.respond round.pair).waited (round.deadline - round.begun)

/-- The sources that are not done with. -/
def waitedFor (round : Round) : List Source := (round.questions.filter (·.isOpen)).map (·.source)

/-- Is every source done with? -/
def isOver (round : Round) : Bool := round.waitedFor.isEmpty

/-- The first of a moment and all moments at which a source that is waited for wakes the round. -/
def nextWake (round : Round) (moment : Nat) : Nat :=
  (round.waitedFor.map round.due).foldr min moment

/-- What comes next. Time goes by until the first source wakes the round, and a round that is over
    stays as it is. -/
def turn (round : Round) : Turn → Round
  | .look index => { round with questions := round.questions.modify index round.lookAt }
  | .wait time =>
    if round.isOver then round else { round with clock := round.nextWake (round.clock + time) }

/-- The round after some turns. -/
def run (round : Round) (turns : List Turn) : Round := turns.foldl turn round

/-- The sources that are done with, each with its answer. -/
def answers (round : Round) : Answers :=
  round.questions.filterMap fun question => question.answer.map fun answer =>
    (question.source.name, answer)

/-- The readings of a round that is over. -/
def readings? (round : Round) : Option Readings :=
  if round.isOver then
    some { successes := round.answers.successes round.pair, failures := round.answers.failures }
  else none

end Round

namespace Aggregator

/-- The round that a lookup at a given time begins with; none if there is no deadline. -/
def round? (aggregator : Aggregator) (now : Nat) (pair : TickerPair) : Option Round :=
  (aggregator.deadline? now).map fun deadline =>
    { pair, begun := now, deadline, clock := now, questions :=
      aggregator.sources.map fun source => { source } }

/-- The round of a lookup after some turns. -/
def roundAfter? (aggregator : Aggregator) (now : Nat) (pair : TickerPair) (turns : List Turn) :
    Option Round :=
  (aggregator.round? now pair).map (·.run turns)

/-- The readings that a lookup brings if some turns see it to its end. -/
def readingsAfter? (aggregator : Aggregator) (now : Nat) (pair : TickerPair) (turns : List Turn) :
    Option Readings :=
  (aggregator.roundAfter? now pair turns).bind (·.readings?)

/-- The quote that a lookup brings if some turns see it to its end. -/
def quoteAfter? (aggregator : Aggregator) (now : Nat) (pair : TickerPair) (turns : List Turn) :
    Option (Except NoQuote Double) :=
  (aggregator.readingsAfter? now pair turns).map (·.quote pair)

end Aggregator
end FeeOracle
