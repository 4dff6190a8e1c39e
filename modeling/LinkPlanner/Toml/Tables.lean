import LinkPlanner.Document.Basic

/-! How the statements of a TOML text make up tables. A table can be brought about by a header of its own, by a
header for a table inside it, or by a dotted key, and it may be defined only once. -/

namespace LinkPlanner.Toml

/-- One statement of a text. -/
inductive Statement where
  /-- A header that opens a table. -/
  | header (path : List String)
  /-- A header that opens a further item of a list of tables. -/
  | item (path : List String)
  | entry (key : List String) (value : Document)

/-- How a table came about. -/
structure Origin where
  /-- Only by the tables in it: a header may still define the table itself. -/
  implicit : Bool := false
  /-- By a dotted key: it takes entries by dotted keys only. -/
  dotted : Bool := false

/-- What stands under a key. -/
inductive Node where
  /-- A value that is complete as it is. -/
  | value (d : Document)
  | table (origin : Origin) (entries : List (String × Node))
  /-- A list of tables that each have a header. -/
  | items (tables : List (List (String × Node)))
deriving Inhabited

/-- The entries of a table under construction, in the order in which they came up. -/
structure Table where
  origin : Origin
  entries : List (String × Node)

namespace Table

def empty : Table := ⟨{}, []⟩

def put (t : Table) (key : String) (n : Node) : Table :=
  { t with
    entries :=
      if (t.entries.lookup key).isSome then t.entries.map fun e => if e.1 == key then (key, n) else e
      else t.entries ++ [(key, n)] }

def node (t : Table) : Node := .table t.origin t.entries

/-- Changes the table that a path leads to. Tables on the way that do not exist yet are made; of a list of
tables the last one is meant. A dotted key must not enter a table that a header has defined. -/
def under? (dotted : Bool) (change : Table → Option Table) : List String → Table → Option Table
  | [], t => change t
  | key :: path, t =>
    match t.entries.lookup key with
    | none => do some (t.put key (← under? dotted change path ⟨⟨true, dotted⟩, []⟩).node)
    | some (.table origin entries) =>
      if dotted && !origin.implicit then none
      else do some (t.put key (← under? dotted change path ⟨origin, entries⟩).node)
    | some (.items tables) =>
      match tables.reverse with
      | last :: before => do
        let last ← under? dotted change path ⟨{}, last⟩
        some (t.put key (.items (last.entries :: before).reverse))
      | [] => none
    | some (.value _) => none

/-- Sets a new key of the table. The last part of a dotted key goes to a table that dotted keys have made. -/
def assign? (t : Table) (key : List String) (d : Document) : Option Table :=
  match key.reverse with
  | [] => none
  | last :: before =>
    let dotted := !before.isEmpty
    t.under? dotted
      (fun t =>
        if t.origin.dotted != dotted || (t.entries.lookup last).isSome then none
        else some (t.put last (.value d)))
      before.reverse

/-- Opens the table of a header. It must be new, or have come about only by the tables in it. -/
def openTable? (t : Table) (path : List String) : Option Table :=
  match path.reverse with
  | [] => none
  | last :: before =>
    t.under? false
      (fun t =>
        match t.entries.lookup last with
        | none => some (t.put last (.table {} []))
        | some (.table origin entries) =>
          if origin.implicit && !origin.dotted then some (t.put last (.table {} entries)) else none
        | some _ => none)
      before.reverse

/-- Opens a further table of a list of tables. -/
def openItem? (t : Table) (path : List String) : Option Table :=
  match path.reverse with
  | [] => none
  | last :: before =>
    t.under? false
      (fun t =>
        match t.entries.lookup last with
        | none => some (t.put last (.items [[]]))
        | some (.items tables) => some (t.put last (.items (tables ++ [[]])))
        | some _ => none)
      before.reverse

/-- Adds one statement; `current` is the path of the table that the last header has opened. -/
def add? : Table × List String → Statement → Option (Table × List String)
  | (t, _), .header path => (t.openTable? path).map (·, path)
  | (t, _), .item path => (t.openItem? path).map (·, path)
  | (t, current), .entry key d => (t.under? false (·.assign? key d) current).map (·, current)

def ofStatements? (ss : List Statement) : Option Table := (ss.foldlM add? (empty, [])).map (·.1)

end Table

mutual

def Node.toDocument : Node → Document
  | .value d => d
  | .table _ entries => .table (entriesOf entries)
  | .items tables => .array (itemsOf tables)

def entriesOf : List (String × Node) → List (String × Document)
  | [] => []
  | (key, n) :: rest => (key, n.toDocument) :: entriesOf rest

def itemsOf : List (List (String × Node)) → List Document
  | [] => []
  | entries :: rest => .table (entriesOf entries) :: itemsOf rest

end

def Table.toDocument (t : Table) : Document := .table (entriesOf t.entries)

end LinkPlanner.Toml
