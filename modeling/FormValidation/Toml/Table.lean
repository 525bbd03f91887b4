import FormValidation.Toml.Basic

/-!
# Tables under construction

A TOML document builds one table, entry by entry.  Which entries and headers may still follow depends on
how a table came to be there: by a header of its own, as a part of the header of another table, or as a
part of a dotted key.  A value that was written as such is closed.

* `Draft.assign` — an entry `key = value`, where the key may be dotted;
* `Draft.openTable` — a header `[path]`;
* `Draft.openItem` — a header `[[path]]`, which adds a table to an array of tables.
-/

namespace FormValidation
namespace Toml

/-! ## Nodes -/

/-- How a table came to be there. -/
inductive Origin where
  /-- By a header of its own. -/
  | header
  /-- As a part of the header of another table. -/
  | implied
  /-- As a part of a dotted key. -/
  | dotted
  deriving Repr, DecidableEq

/-- What a key leads to. -/
inductive Node where
  | closed (v : Value)
  | table (origin : Origin) (entries : List (String × Node))
  /-- An array of tables. -/
  | tables (items : List (List (String × Node)))

abbrev Entries := List (String × Node)

namespace Entries

def find? (key : String) (entries : Entries) : Option Node :=
  List.lookup key entries

/-- Puts a node in the place of the one of the same key, or at the end. -/
def put (key : String) (node : Node) : Entries → Entries
  | [] => [(key, node)]
  | (k, n) :: rest => if k = key then (key, node) :: rest else (k, n) :: put key node rest

/-- Changes the table that a path leads to.  Tables on the way that are not there are made, as parts of
a dotted key or of a header.  An array of tables stands for its last table.  A dotted key may not pass
through a table that has a header. -/
def within (asDotted : Bool) (change : Origin → Entries → Option Entries) :
    List String → Origin → Entries → Option Entries
  | [], origin, entries => change origin entries
  | key :: path, _, entries =>
      match find? key entries with
      | none => do
          let origin : Origin := if asDotted then .dotted else .implied
          let inner ← within asDotted change path origin []
          return put key (.table origin inner) entries
      | some (.closed _) => none
      | some (.table origin inner) =>
          if asDotted && origin == .header then none
          else do
            let inner ← within asDotted change path origin inner
            return put key (.table origin inner) entries
      | some (.tables items) =>
          -- The path leads on through the table that was added last.
          match items.reverse with
          | [] => none
          | last :: before => do
              let last ← within asDotted change path .header last
              return put key (.tables (last :: before).reverse) entries

/-- Adds an entry under a key that is free.  The last part of a dotted key goes into a table that a
dotted key made, and a plain key into no such table. -/
def add (isDotted : Bool) (key : String) (v : Value) (origin : Origin) (entries : Entries) :
    Option Entries :=
  if (origin == .dotted) != isDotted then none
  else
    match find? key entries with
    | some _ => none
    | none => some (put key (.closed v) entries)

/-- Adds an entry under a key, which may be dotted. -/
def assign (path : List String) (key : String) (v : Value) : Origin → Entries → Option Entries :=
  within true (add (!path.isEmpty) key v) path

end Entries

/-! ## Closing -/

mutual

def Node.close : Node → Value
  | .closed v => v
  | .table _ entries => .table (closeEntries entries)
  | .tables items => .array (closeItems items)

def closeEntries : List (String × Node) → List (String × Value)
  | [] => []
  | (key, n) :: rest => (key, n.close) :: closeEntries rest

def closeItems : List (List (String × Node)) → List Value
  | [] => []
  | entries :: rest => .table (closeEntries entries) :: closeItems rest

end

/-! ## Documents -/

/-- A document under construction: its table, and the path to the table that entries go into. -/
structure Draft where
  root : Entries := []
  current : List String := []

namespace Draft

def assign (d : Draft) (path : List String) (key : String) (v : Value) : Option Draft := do
  let root ← Entries.within false (Entries.assign path key v) d.current .header d.root
  return { d with root }

/-- A table gets a header of its own. -/
def openTable (d : Draft) (path : List String) (key : String) : Option Draft := do
  let change (_ : Origin) (entries : Entries) : Option Entries :=
    match Entries.find? key entries with
    | none => some (Entries.put key (.table .header []) entries)
    -- A table that other headers made may get its own header, once.
    | some (.table .implied inner) => some (Entries.put key (.table .header inner) entries)
    | some _ => none
  let root ← Entries.within false change path .header d.root
  return { root, current := path ++ [key] }

/-- An array of tables gets another table. -/
def openItem (d : Draft) (path : List String) (key : String) : Option Draft := do
  let change (_ : Origin) (entries : Entries) : Option Entries :=
    match Entries.find? key entries with
    | none => some (Entries.put key (.tables [[]]) entries)
    | some (.tables items) => some (Entries.put key (.tables (items ++ [[]])) entries)
    | some _ => none
  let root ← Entries.within false change path .header d.root
  return { root, current := path ++ [key] }

end Draft

end Toml
end FormValidation
