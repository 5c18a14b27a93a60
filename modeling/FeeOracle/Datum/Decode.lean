import FeeOracle.Datum.Basic

/-!
# Decoding data

Functions that read a value of a known type from untyped data; none means that the data has another
form. A record may be written as a table, or as a list of its fields in their order; a choice
without contents as its name, or as a table with the name as its only entry.
-/

namespace FeeOracle.Datum

/-- The format that data comes from. -/
inductive Format
  | json
  | toml
deriving DecidableEq, Repr

/-- Is this how the format writes that there are no contents? -/
def Format.isEmpty : Format → Datum → Bool
  | json, null => true
  | toml, list [] => true
  | toml, table [] => true
  | _, _ => false

/-- A natural number below the bound. -/
def natBelow? (bound : Nat) : Datum → Option Nat
  | integer value => if 0 ≤ value ∧ value < bound then some value.toNat else none
  | _ => none

/-- What may be missing; `null` stands for a missing value. -/
def optional? {α : Type} (decode : Datum → Option α) : Datum → Option (Option α)
  | null => some none
  | datum => (decode datum).map some

/-- A list of items that can all be decoded. -/
def listOf? {α : Type} (decode : Datum → Option α) : Datum → Option (List α)
  | list items => items.mapM decode
  | _ => none

/-- The name of a choice, by itself or as the only entry of a table that has no contents. -/
def choice? (format : Format) : Datum → Option String
  | text name => some name
  | table [(name, contents)] => if format.isEmpty contents then some name else none
  | _ => none

/-- The fields of a record whose fields have the given names. -/
def fields? (names : List String) : Datum → Option (List (String × Datum))
  | table entries => some entries
  | list items => if items.length ≤ names.length then some (names.zip items) else none
  | _ => none

/-- A field that has to be there. -/
def field? {α : Type} (fields : List (String × Datum)) (name : String) (decode : Datum → Option α) :
    Option α :=
  (fields.lookup name).bind decode

/-- A field with a value for its absence. -/
def fieldOr? {α : Type} (fields : List (String × Datum)) (name : String) (absent : α)
    (decode : Datum → Option α) : Option α :=
  match fields.lookup name with
  | some datum => decode datum
  | none => some absent

end FeeOracle.Datum
