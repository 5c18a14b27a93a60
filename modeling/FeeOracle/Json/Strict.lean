import FeeOracle.Json.Number
import FeeOracle.Json.Reader

/-!
# Data from documents

Data is made from a document part by part. A part that is taken as untyped data must be sound
throughout: every number has a value, every text consists of characters, and lists and tables are
nested no deeper than allowed.
-/

namespace FeeOracle.Json

/-- How deep lists and tables may be nested. -/
def maxDepth : Nat := 127

mutual

/-- The data of a document nested at most `levels` deep. Tables are sorted by name, and of entries
    with the same name the last one counts. -/
def Written.datum? (levels : Nat) : Written → Option Datum
  | .null => some .null
  | .bool value => some (.bool value)
  | .number numeral => numeral.datum?
  | .text value => value.map .text
  | .list items =>
    match levels with
    | 0 => none
    | levels + 1 => (itemsDatum? levels items).map .list
  | .table entries =>
    match levels with
    | 0 => none
    | levels + 1 => (entriesDatum? levels entries).map Datum.sortedTable

/-- The data of items, within so many levels. -/
def itemsDatum? (levels : Nat) : List Written → Option (List Datum)
  | [] => some []
  | item :: rest => do
    let datum ← item.datum? levels
    let data ← itemsDatum? levels rest
    some (datum :: data)

/-- The data of entries, within so many levels; a name must not hold an escape that is no
    character. -/
def entriesDatum? (levels : Nat) : List (Option String × Written) → Option (List (String × Datum))
  | [] => some []
  | (name, value) :: rest => do
    let name ← name
    let datum ← value.datum? levels
    let data ← entriesDatum? levels rest
    some ((name, datum) :: data)

end

/-- The data that a text writes. -/
def parse? (text : String) : Option Datum := do
  let document ← (readDocument text).toOption
  document.datum? maxDepth

example : (parse? " -1.5e3 ").bind Datum.double? = some (-Double.ofNat 1500) := by decide +kernel
example : (parse? "\x22\\ud83d\\ude00\x22").bind Datum.text? = some "😀" := by decide +kernel
example : ((parse? "[1, 2,]").isNone && (parse? "01").isNone) = true := by decide +kernel

end FeeOracle.Json
