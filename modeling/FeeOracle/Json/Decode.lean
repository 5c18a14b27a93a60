import FeeOracle.Json.Strict
import FeeOracle.Power

/-!
# Decoding documents

Values of known types are read straight from a document as written. A record may be a table or a
list of its fields in their order; its known names must not repeat, and whatever stands under an
unknown name is passed over. Only the parts that are read have to be sound.
-/

namespace FeeOracle.Json

/-- The document is not one, or does not have the expected form. -/
structure DecodeError where
  position : Position
deriving DecidableEq, Repr

/-- The text of the error, which tells the place. -/
def DecodeError.message (error : DecodeError) : String := s!"unexpected content at {error.position}"

/-- The value that a text writes. A document of another form is at fault as a whole. -/
def decode {α : Type} (ofWritten? : Written → Option α) (text : String) : Except DecodeError α :=
  match readDocument text with
  | .error position => .error { position }
  | .ok document =>
    match ofWritten? document with
    | some value => .ok value
    | none => .error { position := .after text.toList }

namespace Written

/-- The contents of a text without an escape that is no character. -/
def text? : Written → Option String
  | text value => value
  | _ => none

/-- A double; a whole number rounds to one. -/
def double? : Written → Option Double
  | number numeral => numeral.datum?.bind Datum.double?
  | _ => none

/-- A whole number of 64 bits with a sign. -/
def integer? : Written → Option Int
  | number numeral =>
    match numeral.datum? with
    | some (.integer value) => if value < 2 ^ (63 : Nat) then some value else none
    | _ => none
  | _ => none

/-- A list of items that can all be decoded. -/
def listOf? {α : Type} (decode : Written → Option α) : Written → Option (List α)
  | list items => items.mapM decode
  | _ => none

/-- What may be missing; `null` stands for a missing value. -/
def optional? {α : Type} (decode : Written → Option α) : Written → Option (Option α)
  | null => some none
  | document => (decode document).map some

/-- The entries of a table whose names are all sound. -/
def entries? : Written → Option (List (String × Written))
  | table entries => entries.mapM fun (name, value) => name.map (·, value)
  | _ => none

/-- The fields of a record whose fields have the given names. -/
def fields? (names : List String) : Written → Option (List (String × Written))
  | table entries => do
    let entries ← (table entries).entries?
    let known := entries.filter (names.contains ·.1)
    if (known.map (·.1)).eraseDups.length = known.length then some known else none
  | list items => if items.length ≤ names.length then some (names.zip items) else none
  | _ => none

end Written

/-- A field that has to be there. -/
def field? {α : Type} (fields : List (String × Written)) (name : String)
    (decode : Written → Option α) : Option α :=
  (fields.lookup name).bind decode

/-- A field with a value for its absence. -/
def fieldOr? {α : Type} (fields : List (String × Written)) (name : String) (absent : α)
    (decode : Written → Option α) : Option α :=
  match fields.lookup name with
  | some document => decode document
  | none => some absent

end FeeOracle.Json
