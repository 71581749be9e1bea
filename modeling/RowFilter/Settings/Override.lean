import RowFilter.Access.Resolve
import RowFilter.Settings.Problem
import RowFilter.Sql.Dialect

/-!
# Parts of settings and their changes

The columns that the scope looks at, the limits of pages and the dialect are set for every place the
program runs in, and a place may change them. A change of columns or limits replaces what it says,
key by key, and leaves the rest; a dialect is replaced as a whole.
-/

namespace RowFilter.Settings

open Json (Reading Outline)
open Page (Limits)

/-! ## Columns -/

/-- The names of the columns of owner and department, and the alias of their table, if it has one
(`DataPermissionConfig`). -/
structure ColumnNames where
  owner : String := "create_user"
  dept : String := "dept_id"
  tableAlias : Option String := none
  deriving DecidableEq

namespace ColumnNames

/-- The columns, qualified by the alias where there is one (`DataPermissionConfig::columns`). -/
def columns (names : ColumnNames) : Access.Columns :=
  match names.tableAlias with
  | some name => Access.Columns.withAlias ⟨names.owner, names.dept⟩ name
  | none => ⟨names.owner, names.dept⟩

/-- The keys of columns. -/
def keys : List String := ["owner_column", "dept_column", "table_alias"]

/-- The outline of columns. -/
def outline : Outline := { name := "ColumnNames", fields := keys, isClosed := true }

/-- Reads one part. -/
def set (names : ColumnNames) (key : String) (v : Json) : Reading ColumnNames := do
  match key with
  | "owner_column" => return { names with owner := ← v.readString }
  | "dept_column" => return { names with dept := ← v.readString }
  | _ => return { names with tableAlias := ← v.readOption Json.readString }

/-- Columns, the usual ones where nothing is said. -/
def ofJson (v : Json) : Reading ColumnNames := do
  let (names, _) ← outline.read set {} v
  return names

/-- The columns as JSON, without an alias if there is none. -/
def toJson (names : ColumnNames) : Json :=
  .object ([("owner_column", .string names.owner), ("dept_column", .string names.dept)]
    ++ names.tableAlias.toList.map fun name => ("table_alias", .string name))

end ColumnNames

/-- What changes about columns (`DataPermissionOverride`). -/
structure ColumnChange where
  owner : Option String := none
  dept : Option String := none
  tableAlias : Option String := none
  deriving DecidableEq

namespace ColumnChange

/-- The columns after a change. -/
def apply (c : ColumnChange) (names : ColumnNames) : ColumnNames where
  owner := c.owner.getD names.owner
  dept := c.dept.getD names.dept
  tableAlias := c.tableAlias.or names.tableAlias

/-- The outline of a change. -/
def outline : Outline :=
  { name := "ColumnChange", fields := ColumnNames.keys, isClosed := true }

/-- Reads one part. -/
def set (c : ColumnChange) (key : String) (v : Json) : Reading ColumnChange := do
  match key with
  | "owner_column" => return { c with owner := ← v.readOption Json.readString }
  | "dept_column" => return { c with dept := ← v.readOption Json.readString }
  | _ => return { c with tableAlias := ← v.readOption Json.readString }

/-- A change of columns. -/
def ofJson (v : Json) : Reading ColumnChange := do
  let (c, _) ← outline.read set {} v
  outline.noGap v
  return c

/-- The change as JSON, null where nothing is said. -/
def toJson (c : ColumnChange) : Json :=
  .object [("owner_column", Json.ofOption .string c.owner),
    ("dept_column", Json.ofOption .string c.dept),
    ("table_alias", Json.ofOption .string c.tableAlias)]

end ColumnChange

/-! ## Limits -/

/-- What changes about the limits of pages (`PaginationOverride`). The largest page is as it is
written: minus one takes the limit away. -/
structure LimitChange where
  defaultSize : Option UInt64 := none
  maxLimit : Option Int64 := none
  wraps : Option Bool := none
  deriving DecidableEq

namespace LimitChange

/-- The largest page after a change. -/
def applyMaxLimit (c : LimitChange) (before : Option UInt64) :
    Except Unusable (Option UInt64) :=
  match c.maxLimit with
  | some n => (Page.limitOf n).mapError fun _ => .negativeMaxLimit n
  | none => .ok before

/-- The limits after a change. -/
def apply (c : LimitChange) (limits : Limits) : Except Unusable Limits := do
  let most ← c.applyMaxLimit limits.maxLimit
  return ⟨c.defaultSize.getD limits.defaultSize, most, c.wraps.getD limits.wraps⟩

/-- The outline of a change. -/
def outline : Outline :=
  { name := "LimitChange", fields := Limits.outline.fields, isClosed := true }

/-- Reads one part. -/
def set (c : LimitChange) (key : String) (v : Json) : Reading LimitChange := do
  match key with
  | "default_size" => return { c with defaultSize := ← v.readOption Json.readUInt64 }
  | "max_limit" => return { c with maxLimit := ← v.readOption Json.readInt64 }
  | _ => return { c with wraps := ← v.readOption Json.readBool }

/-- A change of limits. -/
def ofJson (v : Json) : Reading LimitChange := do
  let (c, _) ← outline.read set {} v
  outline.noGap v
  return c

/-- The change as JSON, null where nothing is said. -/
def toJson (c : LimitChange) : Json :=
  .object [("default_size", Json.ofOption Json.ofUInt64 c.defaultSize),
    ("max_limit", Json.ofOption Json.ofInt64 c.maxLimit), ("overflow", Json.ofOption .bool c.wraps)]

end LimitChange

/-! ## Dialects -/

/-- A dialect by one of its names, which may have a table or a list to itself that is empty. -/
def readDialect : Json → Reading Sql.Dialect
  | .object [(name, .object [])] => Sql.Dialect.ofJson (.string name)
  | .object [(name, .array [])] => Sql.Dialect.ofJson (.string name)
  | .string name => Sql.Dialect.ofJson (.string name)
  | v => .error (v.wrong "string or map")

/-- The outline of what is set about SQL. -/
def sqlOutline : Outline := { name := "Sql", fields := ["dialect"], isClosed := true }

/-- What is set about SQL (`SqlConfig`): the dialect, the usual one where nothing is said. -/
def readSql (v : Json) : Reading Sql.Dialect := do
  let (d, _) ← sqlOutline.read (fun _ _ v => readDialect v) Sql.Dialect.postgresql v
  return d

/-- What is set about SQL as JSON. -/
def sqlJson (d : Sql.Dialect) : Json := .object [("dialect", .string d.name)]

/-! ## Overrides -/

/-- What a place that the program runs in changes (`EnvironmentOverride`). -/
structure Override where
  columns : Option ColumnChange := none
  limits : Option LimitChange := none
  dialect : Option Sql.Dialect := none
  deriving DecidableEq

namespace Override

/-- The outline of an override. -/
def outline : Outline where
  name := "Override"
  fields := ["data_permission", "pagination", "sql"]
  isClosed := true

/-- Reads one part. -/
def set (o : Override) (key : String) (v : Json) : Reading Override := do
  match key with
  | "data_permission" => return { o with columns := ← v.readOption ColumnChange.ofJson }
  | "pagination" => return { o with limits := ← v.readOption LimitChange.ofJson }
  | _ => return { o with dialect := ← v.readOption readSql }

/-- An override. -/
def ofJson (v : Json) : Reading Override := do
  let (o, _) ← outline.read set {} v
  outline.noGap v
  return o

/-- The override as JSON, null where nothing is said. -/
def toJson (o : Override) : Json :=
  .object [("data_permission", Json.ofOption ColumnChange.toJson o.columns),
    ("pagination", Json.ofOption LimitChange.toJson o.limits),
    ("sql", Json.ofOption sqlJson o.dialect)]

end Override
end RowFilter.Settings
