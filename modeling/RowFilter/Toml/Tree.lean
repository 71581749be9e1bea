import RowFilter.Toml

/-!
# The tables of a document

A document is a list of statements: headers that open a table or a further entry of a list of
tables, and assignments inside the table opened last. Nothing is said twice: a table is opened by
one header at most, a key is assigned once, and tables that dotted keys make up cannot be opened by
a header or the other way round. A table that only the headers of its parts imply may still be
opened; it then moves behind the tables said before.
-/

namespace RowFilter.Toml

/-! ## Trees -/

/-- How a table came about. -/
inductive TableKind where
  /-- A header opened it. -/
  | opened
  /-- The header of a part implied it. -/
  | implied
  /-- Dotted keys made it up. -/
  | dotted
  deriving DecidableEq

/-- What stands under a key while a document is read. -/
inductive Node where
  | value (v : Toml)
  | table (kind : TableKind) (entries : List (String × Node))
  /-- A list of tables, the last of which is still open. -/
  | tables (before : List (List (String × Node))) (last : List (String × Node))

/-- The entries of a table. -/
abbrev Entries := List (String × Node)

namespace Node

/-- The entries with another node under a key that is there. -/
def replace (name : String) (n : Node) : Entries → Entries
  | [] => []
  | (k, m) :: es => if k = name then (k, n) :: es else (k, m) :: replace name n es

/-- The entries without a key. -/
def remove (name : String) : Entries → Entries
  | [] => []
  | (k, m) :: es => if k = name then es else (k, m) :: remove name es

mutual

/-- The finished value of a node. -/
def toToml : Node → Toml
  | value v => v
  | table _ es => .table (finished es)
  | tables before last => .array (finishedAll before ++ [.table (finished last)])

/-- The finished entries of a table. -/
def finished : List (String × Node) → List (String × Toml)
  | [] => []
  | (k, n) :: es => (k, n.toToml) :: finished es

/-- The finished tables of a list. -/
def finishedAll : List (List (String × Node)) → List Toml
  | [] => []
  | es :: rest => .table (finished es) :: finishedAll rest

end

end Node

/-! ## Keys -/

/-- A key of several parts: the tables it goes through, and the last part. -/
structure Key where
  parents : List String
  name : String
  deriving DecidableEq

/-- Every part of a key. -/
def Key.parts (k : Key) : List String := k.parents ++ [k.name]

/-! ## Statements -/

/-- Changes the table at the end of a path. Tables that are missing on the way are made up, by
dotted keys or by a header; dotted keys do not go through a table that a header opened, except
through a list of tables. -/
def within (dotted : Bool) (change : TableKind → Entries → Option Entries) :
    List String → TableKind → Entries → Option Entries
  | [], kind, es => change kind es
  | name :: path, _, es =>
    match es.lookup name with
    | none =>
      let kind := if dotted then TableKind.dotted else .implied
      (within dotted change path kind []).map fun inner => es ++ [(name, .table kind inner)]
    | some (.value _) => none
    | some (.tables before last) =>
      (within dotted change path .opened last).map fun inner =>
        Node.replace name (.tables before inner) es
    | some (.table kind inner) =>
      if dotted ∧ kind = .opened then none
      else (within dotted change path kind inner).map fun inner =>
        Node.replace name (.table kind inner) es

/-- Assigns a key in a table that its dotted part leads to, if it has one. -/
def assignHere (isDotted : Bool) (name : String) (v : Toml) (kind : TableKind) (es : Entries) :
    Option Entries :=
  if isDotted ≠ decide (kind = .dotted) then none
  else
    match es.lookup name with
    | some _ => none
    | none => some (es ++ [(name, .value v)])

/-- Assigns a key in a table. -/
def assign (k : Key) (v : Toml) (kind : TableKind) (es : Entries) : Option Entries :=
  within true (assignHere (!k.parents.isEmpty) k.name v) k.parents kind es

/-- Opens a table. -/
def openHere (name : String) (_ : TableKind) (es : Entries) : Option Entries :=
  match es.lookup name with
  | none => some (es ++ [(name, .table .opened [])])
  | some (.table .implied inner) => some (Node.remove name es ++ [(name, .table .opened inner)])
  | some _ => none

/-- Opens a further entry of a list of tables. -/
def extendHere (name : String) (_ : TableKind) (es : Entries) : Option Entries :=
  match es.lookup name with
  | none => some (es ++ [(name, .tables [] [])])
  | some (.tables before last) => some (Node.replace name (.tables (before ++ [last]) []) es)
  | some _ => none

/-- A statement of a document. -/
inductive Statement where
  | assign (k : Key) (v : Toml)
  | header (k : Key)
  | entry (k : Key)

/-- The tables read so far, and the path to the one opened last. -/
structure Draft where
  entries : Entries := []
  path : List String := []

/-- The draft after one more statement. -/
def Draft.add (d : Draft) : Statement → Option Draft
  | .assign k v =>
    (within false (assign k v) d.path .opened d.entries).map fun es => { d with entries := es }
  | .header k =>
    (within false (openHere k.name) k.parents .opened d.entries).map fun es => ⟨es, k.parts⟩
  | .entry k =>
    (within false (extendHere k.name) k.parents .opened d.entries).map fun es => ⟨es, k.parts⟩

/-- The table that statements make up. -/
def ofStatements? (statements : List Statement) : Option Toml :=
  (statements.foldlM Draft.add {}).map fun d => .table (Node.finished d.entries)

/-- The table that assignments between braces make up. -/
def ofAssignments? (assignments : List (Key × Toml)) : Option Toml :=
  ofStatements? (assignments.map fun (k, v) => .assign k v)

end RowFilter.Toml
