/-!
# Runs of letters with one case distance

Most letters lie at the same distance from their other case as their neighbours do. A run covers
such letters; a step of two covers the alphabets that alternate the two cases.
-/

namespace FeeOracle.Text

/-- The letters `first`, `first + step`, … up to `last`, each mapped `shift` code points away. -/
structure CaseRun where
  first : Nat
  last : Nat
  step : Nat
  shift : Int
deriving Repr, DecidableEq

/-- The code point that the run maps a code point to, if the run covers it. -/
def CaseRun.map? (run : CaseRun) (code : Nat) : Option Nat :=
  if run.first ≤ code ∧ code ≤ run.last ∧ (code - run.first) % run.step = 0 then
    some (code + run.shift).toNat
  else
    none

/-- The characters that a table maps a character to; a character outside the table maps to
    itself. -/
def mapCase (expansions : List (Nat × List Nat)) (runs : List CaseRun) (c : Char) : List Char :=
  match expansions.lookup c.toNat with
  | some codes => codes.map Char.ofNat
  | none =>
    match runs.findSome? (·.map? c.toNat) with
    | some code => [Char.ofNat code]
    | none => [c]

end FeeOracle.Text
