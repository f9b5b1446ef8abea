import SecretScan.Toml.Value

/-!
# Growing tables

A document fills its tables piece by piece, and how a table came about decides who may add to it. A
table that a header opens, or that lies on the way to one, takes further tables by headers; one that a
key with points made takes further keys with points; a table or array that was written as a value takes
nothing more. No key is given twice.
-/

namespace SecretScan.Toml

/-- How a table came about. -/
inductive Origin where
  /-- A header names it. -/
  | header
  /-- It lies on the way to a table that a header names. -/
  | passing
  /-- It lies on the way of a key with points. -/
  | dotted
deriving DecidableEq

/-- What stands under a key while a document is being read. -/
inductive Node where
  /-- A value that is complete. -/
  | value (v : Toml)
  /-- A table that may grow. -/
  | table (origin : Origin) (entries : List (String × Node))
  /-- An array of tables, the present one first, of which only this one may grow. -/
  | tables (present : List (String × Node)) (earlier : List (List (String × Node)))

/-- The contents of a table while a document is being read. -/
abbrev Entries := List (String × Node)

namespace Entries

/-- What stands under a key. -/
def find? (es : Entries) (key : String) : Option Node :=
  (List.find? (fun e => e.1 == key) es).map Prod.snd

/-- Puts something under a key, in the place where the key stands or at the end. -/
def set (key : String) (node : Node) : Entries → Entries
  | [] => [(key, node)]
  | (k, n) :: rest => if k = key then (k, node) :: rest else (k, n) :: set key node rest

/-- Follows the keys of a header and does something with the table they lead to. -/
def alongHeader (act : Entries → Option Entries) : (path : List String) → Entries → Option Entries
  | [], es => act es
  | key :: path, es =>
    match find? es key with
    | none => (alongHeader act path []).map fun sub => set key (.table .passing sub) es
    | some (.table origin sub) =>
      (alongHeader act path sub).map fun sub => set key (.table origin sub) es
    | some (.tables present earlier) =>
      (alongHeader act path present).map fun sub => set key (.tables sub earlier) es
    | some (.value _) => none

/-- Puts a value under a key with points. -/
def put (v : Toml) : (path : List String) → (last : String) → Entries → Option Entries
  | [], last, es => if (find? es last).isSome then none else some (es ++ [(last, .value v)])
  | key :: path, last, es =>
    match find? es key with
    | none => (put v path last []).map fun sub => set key (.table .dotted sub) es
    | some (.table .dotted sub) =>
      (put v path last sub).map fun sub => set key (.table .dotted sub) es
    | some _ => none

/-- Opens the table of a header. A table is opened once. -/
def openTable (last : String) (es : Entries) : Option Entries :=
  match find? es last with
  | none => some (es ++ [(last, .table .header [])])
  | some (.table .passing sub) => some (set last (.table .header sub) es)
  | some _ => none

/-- Opens the next table of an array of tables. -/
def openElement (last : String) (es : Entries) : Option Entries :=
  match find? es last with
  | none => some (es ++ [(last, .tables [] [])])
  | some (.tables present earlier) => some (set last (.tables [] (present :: earlier)) es)
  | some _ => none

end Entries

mutual

/-- The value that something has grown into. -/
def Node.finish : Node → Toml
  | .value v => v
  | .table _ es => .table (finishEntries es)
  | .tables present earlier => .array (finishTables earlier [.table (finishEntries present)])

/-- The values of a table that has grown. -/
def finishEntries : List (String × Node) → List (String × Toml)
  | [] => []
  | (key, node) :: rest => (key, node.finish) :: finishEntries rest

/-- The tables of an array, the last one first, before those already finished. -/
def finishTables : List (List (String × Node)) → List Toml → List Toml
  | [], done => done
  | es :: earlier, done => finishTables earlier (.table (finishEntries es) :: done)

end

end SecretScan.Toml
