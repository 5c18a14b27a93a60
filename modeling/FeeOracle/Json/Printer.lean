import FeeOracle.Datum.Basic
import FeeOracle.Text.Quoted

/-!
# Printed data

Data is printed in two forms: as a compact document, and in a form for messages that names the kind
of every value.
-/

namespace FeeOracle.Json

/-- The last hexadecimal digit of a number. -/
def hexDigit (n : Nat) : Char := Nat.digitChar (n % 16)

/-- A character as it stands in the text of a document. -/
def escapeChar (c : Char) : List Char :=
  match c with
  | '\x22' => ['\\', '\x22']
  | '\\' => ['\\', '\\']
  | '\x08' => ['\\', 'b']
  | '\x0c' => ['\\', 'f']
  | '\n' => ['\\', 'n']
  | '\r' => ['\\', 'r']
  | '\t' => ['\\', 't']
  | _ =>
    if c.toNat < 0x20 then ['\\', 'u', '0', '0', hexDigit (c.toNat / 16), hexDigit c.toNat] else [c]

/-- A text in quotation marks, as it stands in a document. -/
def quoted (text : String) : String :=
  String.ofList ('\x22' :: text.toList.flatMap escapeChar ++ ['\x22'])

/-- A list in brackets, of items that are already printed. -/
def bracketed (items : List String) : String := "[" ++ ",".intercalate items ++ "]"

/-- A table in braces, of values that are already printed. -/
def braced (entries : List (String × String)) : String :=
  "\x7b" ++ ",".intercalate (entries.map fun (name, value) => quoted name ++ ":" ++ value) ++ "\x7d"

mutual

/-- The compact document of some data. -/
def compact : Datum → String
  | .null => "null"
  | .bool value => if value then "true" else "false"
  | .integer value => toString value
  | .double value => value.write .interchange
  | .text value => quoted value
  | .list items => bracketed (compactItems items)
  | .table entries => braced (compactEntries entries)

/-- The items of a list, each without blanks. -/
def compactItems : List Datum → List String
  | [] => []
  | item :: rest => compact item :: compactItems rest

/-- The entries of a table, each value without blanks. -/
def compactEntries : List (String × Datum) → List (String × String)
  | [] => []
  | (name, value) :: rest => (name, compact value) :: compactEntries rest

end

mutual

/-- Data with the kind of every value. -/
def labelled : Datum → String
  | .null => "Null"
  | .bool value => if value then "Bool(true)" else "Bool(false)"
  | .integer value => "Number(" ++ toString value ++ ")"
  | .double value => "Number(" ++ value.write .interchange ++ ")"
  | .text value => "String(" ++ Text.quote value ++ ")"
  | .list items => "Array [" ++ ", ".intercalate (labelledItems items) ++ "]"
  | .table entries => "Object \x7b" ++ ", ".intercalate (labelledEntries entries) ++ "\x7d"

/-- The items of a list, each labelled with its kind. -/
def labelledItems : List Datum → List String
  | [] => []
  | item :: rest => labelled item :: labelledItems rest

/-- The entries of a table, each with its name and its labelled value. -/
def labelledEntries : List (String × Datum) → List String
  | [] => []
  | (name, value) :: rest => (Text.quote name ++ ": " ++ labelled value) :: labelledEntries rest

end

/-- A list whose items show their kinds. -/
def labelledList (items : List Datum) : String :=
  "[" ++ ", ".intercalate (labelledItems items) ++ "]"

example : compact (.table [("a", .list [.null, .integer 1, .double 0.5])]) =
    "\x7b\x22a\x22:[null,1,0.5]\x7d" := by decide +kernel
example :
    labelledList [.integer 1, .text "a", .list []] =
      "[Number(1), String(\x22a\x22), Array []]" := by
  decide +kernel

end FeeOracle.Json
