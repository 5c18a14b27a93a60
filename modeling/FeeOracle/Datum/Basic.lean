import FeeOracle.Double.Text

/-!
# Untyped data

What a document holds before anyone says what it means: nothing, a truth value, a number, a text, a
list, or a table of named entries. Documents of every format are read into this one type.
-/

namespace FeeOracle

/-- Untyped data. -/
inductive Datum
  | null
  | bool (value : Bool)
  | integer (value : Int)
  | double (value : Double)
  | text (value : String)
  | list (items : List Datum)
  | table (entries : List (String × Datum))
deriving Inhabited, Repr

namespace Datum

/-- The contents of a text. -/
def text? : Datum → Option String
  | text value => some value
  | _ => none

/-- The items of a list. -/
def list? : Datum → Option (List Datum)
  | list items => some items
  | _ => none

/-- The double that a number is, or rounds to. -/
def double? : Datum → Option Double
  | integer value => some (Double.ofInt value)
  | double value => some value
  | _ => none

/-- The entry of a table under a name. -/
def get? (name : String) : Datum → Option Datum
  | table entries => entries.lookup name
  | _ => none

/-- Puts an entry at its place in a sorted table; an entry of the same name is replaced. -/
def insertSorted (name : String) (value : Datum) : List (String × Datum) → List (String × Datum)
  | [] => [(name, value)]
  | (other, old) :: rest =>
    if name = other then (name, value) :: rest
    else if name < other then (name, value) :: (other, old) :: rest
    else (other, old) :: insertSorted name value rest

/-- The table of the given entries, sorted by name. Of entries with the same name the last one
    counts. -/
def sortedTable (entries : List (String × Datum)) : Datum :=
  table (entries.foldl (fun sorted (name, value) => insertSorted name value sorted) [])

end Datum
end FeeOracle
