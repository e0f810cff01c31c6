import HandStudy.Json.Basic

/-!
# TOML tables

While a document is being read its tables are kept as trees that remember how each
table came about, since a table may be defined only once: by a header, by a dotted
key, or so far only as the parent of another one. The values of a document are
written as JSON values; what has no counterpart there, such as a date, is
`Json.void`.
-/

namespace HandStudy.Toml

/-- How a table came about. -/
inductive Origin where
  | header
  /-- As the parent of a table with a header. -/
  | parent
  /-- By a dotted key. -/
  | dotted
deriving DecidableEq, Inhabited

/-- A value or table that is being read. -/
inductive Node where
  /-- A value, to which nothing can be added. -/
  | value (v : Json)
  | table (origin : Origin) (entries : List (String × Node))
  /-- A list of tables, the last one first. -/
  | tables (items : List (List (String × Node)))
deriving Inhabited

/-- What a table holds, by key. -/
abbrev Entries := List (String × Node)

namespace Entries

/-- The entries with one that replaces the entry of the same key or is added. -/
def set (key : String) (n : Node) : Entries → Entries
  | [] => [(key, n)]
  | (k, m) :: entries => if k = key then (key, n) :: entries else (k, m) :: set key n entries

/-- Opens the table of a header, or a new table at the end of a list if the header
    asks for one. The parents may be any tables; the table itself must not have been
    defined before. -/
def openTable (inList : Bool) : List String → Entries → Option Entries
  | [], _ => none
  | [key], entries =>
    match entries.lookup key with
    | none => some (entries.set key (if inList then .tables [[]] else .table .header []))
    | some (.table .parent sub) =>
      if inList then none else some (entries.set key (.table .header sub))
    | some (.tables items) =>
      if inList then some (entries.set key (.tables ([] :: items))) else none
    | some _ => none
  | key :: path, entries =>
    match entries.lookup key with
    | none => (openTable inList path []).map fun sub => entries.set key (.table .parent sub)
    | some (.table origin sub) =>
      (openTable inList path sub).map fun sub => entries.set key (.table origin sub)
    | some (.tables (last :: items)) =>
      (openTable inList path last).map fun last => entries.set key (.tables (last :: items))
    | some _ => none

/-- Adds a value under a dotted key. The value must be new. The table it goes to
    must be one that dotted keys have made, and the tables above must not have
    headers. -/
def put (v : Json) : List String → Entries → Option Entries
  | [], _ => none
  | [key], entries =>
    match entries.lookup key with
    | none => some (entries.set key (.value v))
    | some _ => none
  | key :: path, entries =>
    match entries.lookup key with
    | none => (put v path []).map fun sub => entries.set key (.table .dotted sub)
    | some (.table .dotted sub) =>
      (put v path sub).map fun sub => entries.set key (.table .dotted sub)
    | some (.table .parent sub) =>
      if path.length ≤ 1 then none
      else (put v path sub).map fun sub => entries.set key (.table .parent sub)
    | some (.tables (last :: items)) =>
      if path.length ≤ 1 then none
      else (put v path last).map fun last => entries.set key (.tables (last :: items))
    | some _ => none

/-- Changes the entries of the table that a header has opened. -/
def change (f : Entries → Option Entries) : List String → Entries → Option Entries
  | [], entries => f entries
  | key :: path, entries =>
    match entries.lookup key with
    | some (.table origin sub) =>
      (change f path sub).map fun sub => entries.set key (.table origin sub)
    | some (.tables (last :: items)) =>
      (change f path last).map fun last => entries.set key (.tables (last :: items))
    | _ => none

end Entries

mutual

/-- The value that a finished tree stands for. -/
def Node.json : Node → Json
  | .value v => v
  | .table _ entries => .obj (fieldsJson entries)
  | .tables items => .arr (tablesJson items).reverse

/-- The values of a table's entries. -/
def fieldsJson : List (String × Node) → List (String × Json)
  | [] => []
  | (key, n) :: entries => (key, n.json) :: fieldsJson entries

/-- The values of some tables. -/
def tablesJson : List (List (String × Node)) → List Json
  | [] => []
  | entries :: items => .obj (fieldsJson entries) :: tablesJson items

end

end HandStudy.Toml
