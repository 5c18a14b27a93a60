import FeeOracle.Datum.Basic

/-!
# Tables of a configuration text

A configuration text builds one tree of tables, header by header and entry by entry. Whether a table
may be extended depends on what brought it into being: its own header, a header of a table within
it, or a dotted key. A header fills a table only once, dotted keys extend only tables that dotted
keys made, and a finished value is never extended.
-/

namespace FeeOracle.Toml

/-- What brought a table into being. -/
inductive Origin
  | header
  | innerHeader
  | dottedKey
deriving DecidableEq, Repr

/-- A place in the tree: a value, a table, or a list of tables with the latest one in front. -/
inductive Node
  | value (datum : Datum)
  | table (origin : Origin) (entries : List (String × Node))
  | tables (latest : List (List (String × Node)))
deriving Inhabited

/-- The entries of a table in the tree. -/
abbrev Entries := List (String × Node)

/-- The entries with the node under a name replaced, or appended if there is none. -/
def putNode (name : String) (node : Node) : Entries → Entries
  | [] => [(name, node)]
  | (other, old) :: rest =>
    if other = name then (name, node) :: rest else (other, old) :: putNode name node rest

/-- The entries with the table at the end of a path changed. Tables missing on the way come into
    being; a list of tables leads to its latest one. Only a dotted key is stopped by a table that
    has its own header. -/
def changeTable? (byKey : Bool) (change : Origin → Entries → Option Entries) (path : List String)
    (origin : Origin) (entries : Entries) : Option Entries :=
  match path with
  | [] => change origin entries
  | name :: rest =>
    match entries.lookup name with
    | none => do
      let made := if byKey then Origin.dottedKey else Origin.innerHeader
      let inner ← changeTable? byKey change rest made []
      some (putNode name (.table made inner) entries)
    | some (.value _) => none
    | some (.table innerOrigin inner) =>
      if byKey ∧ innerOrigin = .header then none
      else do
        let inner ← changeTable? byKey change rest innerOrigin inner
        some (putNode name (.table innerOrigin inner) entries)
    | some (.tables []) => none
    | some (.tables (latest :: earlier)) => do
      let latest ← changeTable? byKey change rest .header latest
      some (putNode name (.tables (latest :: earlier)) entries)

/-- An entry as written: the path of its dotted key, the last part of the key, and the value. -/
structure Entry where
  path : List String
  name : String
  value : Datum

/-- The entries of a table with one more. The last table on the path of a dotted key has to be one
    that a dotted key made, and the name has to be new there. -/
def insertOne? (entry : Entry) (entries : Entries) : Option Entries :=
  let change (origin : Origin) (inner : Entries) : Option Entries :=
    if (origin = .dottedKey ↔ entry.path = []) ∨ (inner.lookup entry.name).isSome then none
    else some (putNode entry.name (.value entry.value) inner)
  changeTable? true change entry.path .header entries

/-- The entries of a table with more, in the order in which they are written. -/
def insertAll? (written : List Entry) (entries : Entries) : Option Entries :=
  written.foldlM (fun entries entry => insertOne? entry entries) entries

/-- A header: does it open a new table of a list, on which path, and under which name? -/
structure Header where
  opensItem : Bool
  path : List String
  name : String

/-- A header and the entries up to the next one. -/
structure Section where
  header : Header
  written : List Entry

/-- The tree with one section more. -/
def insertSection? (block : Section) (entries : Entries) : Option Entries :=
  let name := block.header.name
  let change (_ : Origin) (outer : Entries) : Option Entries :=
    if block.header.opensItem then
      match outer.lookup name with
      | none => do
        let inner ← insertAll? block.written []
        some (putNode name (.tables [inner]) outer)
      | some (.tables earlier) => do
        let inner ← insertAll? block.written []
        some (putNode name (.tables (inner :: earlier)) outer)
      | some _ => none
    else
      match outer.lookup name with
      | none => do
        let inner ← insertAll? block.written []
        some (putNode name (.table .header inner) outer)
      | some (.table .innerHeader known) => do
        let inner ← insertAll? block.written known
        some (putNode name (.table .header inner) outer)
      | some _ => none
  changeTable? false change block.header.path .header entries

mutual

/-- The data of a place in the tree. -/
def Node.datum : Node → Datum
  | .value datum => datum
  | .table _ entries => .table (entriesData entries)
  | .tables latest => .list (tablesData latest).reverse

/-- The entries of a table as data. -/
def entriesData : List (String × Node) → List (String × Datum)
  | [] => []
  | (name, node) :: rest => (name, node.datum) :: entriesData rest

/-- The tables of a list as data. -/
def tablesData : List (List (String × Node)) → List Datum
  | [] => []
  | entries :: rest => .table (entriesData entries) :: tablesData rest

end

end FeeOracle.Toml
