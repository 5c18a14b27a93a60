import FeeOracle.Datum.Basic
import FeeOracle.Text.Digits

/-!
# Pointers into data

A pointer names a place in some data: names of entries and numbers of items, each after a slash. In
a name a tilde is written `~0` and a slash `~1`. The empty pointer names the whole.
-/

namespace FeeOracle.Datum

open Text

/-- The characters of one step of a pointer, with the two escapes undone. -/
def unescapeStep : List Char → List Char
  | '~' :: '1' :: rest => '/' :: unescapeStep rest
  | '~' :: '0' :: rest => '~' :: unescapeStep rest
  | c :: rest => c :: unescapeStep rest
  | [] => []

/-- The steps of a pointer, if it is one. -/
def pointerSteps? (pointer : String) : Option (List String) :=
  match pointer.toList with
  | [] => some []
  | '/' :: rest => some ((rest.splitOn '/').map fun step => String.ofList (unescapeStep step))
  | _ => none

/-- The number of an item: digits without a superfluous zero. -/
def itemNumber? (step : String) : Option Nat :=
  let cs := step.toList
  if cs = [] ∨ !cs.all Char.isDigit ∨ (cs.head? = some '0' ∧ cs.length ≠ 1) then none
  else some (digitsValue cs)

/-- The entries with the value under a name changed; none if there is no such name or no changed
    value. -/
def changeNamed? (name : String) (change : Datum → Option Datum) :
    List (String × Datum) → Option (List (String × Datum))
  | [] => none
  | (other, value) :: rest =>
    if other = name then (change value).map fun value => (other, value) :: rest
    else (changeNamed? name change rest).map ((other, value) :: ·)

/-- The items with the one of a number changed; none if there is no such number or no changed
    item. -/
def changeItem? (number : Nat) (change : Datum → Option Datum) (items : List Datum) :
    Option (List Datum) := do
  let item ← items[number]?
  let changed ← change item
  some (items.set number changed)

/-- The data with the place that steps lead to replaced; none if they lead nowhere. -/
def replaceAt? (steps : List String) (replacement datum : Datum) : Option Datum :=
  match steps with
  | [] => some replacement
  | step :: rest =>
    match datum with
    | table entries => (changeNamed? step (replaceAt? rest replacement) entries).map table
    | list items => do
      let number ← itemNumber? step
      (changeItem? number (replaceAt? rest replacement) items).map list
    | _ => none

/-- The data with the place that a pointer names replaced; none if there is no such place. -/
def replace? (pointer : String) (replacement datum : Datum) : Option Datum := do
  let steps ← pointerSteps? pointer
  replaceAt? steps replacement datum

example : pointerSteps? "/a~1b/~01" = some ["a/b", "~1"] := by decide +kernel
example : pointerSteps? "" = some [] := by decide +kernel

end FeeOracle.Datum
