import FeeOracle.Aggregator.Source

/-!
# Readings

What a round of questions to all sources brought: the prices that count and the failures, each in
the order in which the sources are configured.
-/

namespace FeeOracle

/-- A price that counts, and where it comes from. -/
structure Reading where
  source : String
  pair : TickerPair
  price : Double
deriving DecidableEq, Repr

/-- A source without a price that counts. -/
structure Failure where
  source : String
  error : SourceError
deriving DecidableEq, Repr

/-- The text of a failure names the source first. -/
def Failure.message (failure : Failure) : String := failure.source ++ ": " ++ failure.error.message

/-- The outcome of a round. -/
structure Readings where
  successes : List Reading
  failures : List Failure
deriving DecidableEq, Repr

/-- Sources with the answer of each. -/
abbrev Answers := List (String × Except SourceError Double)

/-- The prices among the answers, in their order. -/
def Answers.successes (answers : Answers) (pair : TickerPair) : List Reading :=
  answers.filterMap fun (source, answer) => answer.toOption.map fun price => { source, pair, price }

/-- The errors among the answers, in their order. -/
def Answers.failures (answers : Answers) : List Failure :=
  answers.filterMap fun
    | (_, .ok _) => none
    | (source, .error error) => some { source, error }

/-- Every answer is either a reading or a failure. -/
theorem Answers.length_successes_add_failures (answers : Answers) (pair : TickerPair) :
    (answers.successes pair).length + answers.failures.length = answers.length := by
  induction answers with
  | nil => rfl
  | cons answer rest ih =>
    obtain ⟨source, answer⟩ := answer
    simp only [Answers.successes, Answers.failures] at ih ⊢
    cases answer with
    | ok price =>
      rw [List.filterMap_cons_some (b := { source, pair, price }) (by rfl),
        List.filterMap_cons_none (by rfl), List.length_cons, List.length_cons]
      omega
    | error error =>
      rw [List.filterMap_cons_none (by rfl),
        List.filterMap_cons_some (b := { source, error }) (by rfl),
        List.length_cons, List.length_cons]
      omega

end FeeOracle
