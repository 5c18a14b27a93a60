import FeeOracle.Toml.DateTime
import FeeOracle.Toml.Number
import FeeOracle.Toml.Text
import FeeOracle.Toml.Tree

/-!
# Reading configuration texts

A configuration text consists of lines: entries, headers, comments, and lines that hold nothing.
Values that hold values are nested less than eighty deep, and a key has fewer than eighty parts.
-/

namespace FeeOracle.Toml

/-- How deep lists and tables within a line may be nested, and how many parts a key may have. -/
def maxLevels : Nat := 79

/-- The characters of a key without quotation marks. -/
def isKeyChar (c : Char) : Bool := c.isAlphanum || c == '-' || c == '_'

/-- One part of a key, quoted or bare. -/
def readKeyPart? (cs : List Char) : Option (String × List Char) :=
  match cs with
  | '\x22' :: _ => readLineText? cs
  | '\x27' :: _ => readLineText? cs
  | _ =>
    let part := cs.takeWhile isKeyChar
    if part.isEmpty then none else some (String.ofList part, cs.dropWhile isKeyChar)

/-- The parts of a key: at most `parts`, with dots between them and blanks around each. -/
def readKeyParts? (parts : Nat) (cs : List Char) : Option (List String × List Char) :=
  match parts with
  | 0 => none
  | parts + 1 => do
    let (part, rest) ← readKeyPart? (skipBlanks cs)
    match skipBlanks rest with
    | '.' :: rest =>
      let (more, rest) ← readKeyParts? parts rest
      some (part :: more, rest)
    | rest => some ([part], rest)

/-- A key: its path and its last part. -/
def readKey? (cs : List Char) : Option (List String × String × List Char) := do
  let (parts, rest) ← readKeyParts? maxLevels cs
  let name ← parts.getLast?
  some (parts.dropLast, name, rest)

/-- Takes a given word. -/
def readWord? : List Char → List Char → Option (List Char)
  | [], cs => some cs
  | _ :: _, [] => none
  | w :: word, c :: cs => if w = c then readWord? word cs else none

/-- The table that the entries between two braces make. -/
def inlineTable? (written : List Entry) : Option Datum :=
  (insertAll? written []).map fun entries => .table (entriesData entries)

mutual

/-- A value nested at most `levels` deep. `fuel` bounds the steps; twice the number of characters is
    enough. -/
def readValue? (fuel levels : Nat) (cs : List Char) : Option (Datum × List Char) :=
  match fuel with
  | 0 => none
  | fuel + 1 =>
    match cs with
    | [] => none
    | '[' :: rest =>
      match levels with
      | 0 => none
      | levels + 1 => (readItems? fuel levels rest).map fun (items, rest) => (.list items, rest)
    | '\x7b' :: rest =>
      match levels with
      | 0 => none
      | levels + 1 => do
        let (written, rest) ← match skipBlanks rest with
          | '\x7d' :: rest => some ([], rest)
          | _ => readEntries? fuel levels rest
        let table ← inlineTable? written
        some (table, rest)
    | 't' :: rest => (readWord? ['r', 'u', 'e'] rest).map fun rest => (.bool true, rest)
    | 'f' :: rest => (readWord? ['a', 'l', 's', 'e'] rest).map fun rest => (.bool false, rest)
    | '\x22' :: _ => (readText? cs).map fun (text, rest) => (.text text, rest)
    | '\x27' :: _ => (readText? cs).map fun (text, rest) => (.text text, rest)
    | _ => if startsDateTime cs then readDateTime? cs else readNumber? cs

/-- The items of a list and the bracket that closes it. Line ends and comments may stand anywhere
    between the items, and a comma behind the last one. -/
def readItems? (fuel levels : Nat) (cs : List Char) : Option (List Datum × List Char) :=
  match fuel with
  | 0 => none
  | fuel + 1 =>
    match skipFiller false cs with
    | ']' :: rest => some ([], rest)
    | start => do
      let (item, rest) ← readValue? fuel levels start
      match skipFiller false rest with
      | ']' :: rest => some ([item], rest)
      | ',' :: rest =>
        let (items, rest) ← readItems? fuel levels rest
        some (item :: items, rest)
      | _ => none

/-- The entries of a table on one line, which is not empty, and the brace that closes it. -/
def readEntries? (fuel levels : Nat) (cs : List Char) : Option (List Entry × List Char) :=
  match fuel with
  | 0 => none
  | fuel + 1 => do
    let (path, name, rest) ← readKey? cs
    let rest ← expect? '=' rest
    let (value, rest) ← readValue? fuel levels (skipBlanks rest)
    match skipBlanks rest with
    | '\x7d' :: rest => some ([⟨path, name, value⟩], rest)
    | ',' :: rest =>
      let (written, rest) ← readEntries? fuel levels rest
      some (⟨path, name, value⟩ :: written, rest)
    | _ => none

end

/-- What a line says. -/
inductive Line
  | header (header : Header)
  | entry (entry : Entry)

/-- A header after its opening brackets, with `closing` to close it. -/
def readHeader? (opensItem : Bool) (closing : List Char) (cs : List Char) :
    Option (Line × List Char) := do
  let (path, name, rest) ← readKey? cs
  let rest ← readWord? closing rest
  let rest ← endLine? rest
  some (.header { opensItem, path, name }, rest)

/-- A header or an entry, up to the next line. -/
def readLine? (cs : List Char) : Option (Line × List Char) :=
  match cs with
  | '[' :: '[' :: rest => readHeader? true [']', ']'] rest
  | '[' :: rest => readHeader? false [']'] rest
  | _ => do
    let (path, name, rest) ← readKey? cs
    let rest ← expect? '=' rest
    let (value, rest) ← readValue? (2 * rest.length + 2) maxLevels (skipBlanks rest)
    let rest ← endLine? rest
    some (.entry { path, name, value }, rest)

/-- The lines of a text that say something. -/
def readLines? (fuel : Nat) (cs : List Char) : Option (List Line) :=
  match fuel with
  | 0 => none
  | fuel + 1 =>
    let start := skipBlanks cs
    match start with
    | [] => some []
    | '#' :: _ => (endLine? start).bind (readLines? fuel)
    | '\n' :: rest => readLines? fuel rest
    | '\r' :: _ => (newline? start).bind (readLines? fuel)
    | _ => do
      let (line, rest) ← readLine? start
      let lines ← readLines? fuel rest
      some (line :: lines)

/-- The entries in front of the first header, and the sections. -/
def sections : List Line → List Entry × List Section
  | [] => ([], [])
  | .entry entry :: rest =>
    let (written, blocks) := sections rest
    (entry :: written, blocks)
  | .header header :: rest =>
    let (written, blocks) := sections rest
    ([], ⟨header, written⟩ :: blocks)

/-- The data that some lines say. -/
def linesData? (lines : List Line) : Option Datum := do
  let (written, blocks) := sections lines
  let root ← insertAll? written []
  let root ← blocks.foldlM (fun entries block => insertSection? block entries) root
  some (.table (entriesData root))

/-- The data that a configuration text holds. A byte order mark in front is no part of it. -/
def parse? (text : String) : Option Datum :=
  let cs := match text.toList with
    | '\ufeff' :: rest => rest
    | cs => cs
  (readLines? (cs.length + 1) cs).bind linesData?

end FeeOracle.Toml
