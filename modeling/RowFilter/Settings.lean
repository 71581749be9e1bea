import RowFilter.Environment
import RowFilter.Settings.Override
import RowFilter.Sql.Render
import RowFilter.Toml.Reader

/-!
# Settings

What is set once for all queries: the columns that the scope looks at, the limits of pages, the
dialect, and what the places that the program runs in change about these. Settings are written in
TOML, in which variables of the environment may be referred to. They are checked when they are read
and again after each override: names have to be safe and pages hold at least one row.

Headline: `withOverride_of_lookup`: a place of which nothing is said changes nothing.
-/

namespace RowFilter

open Json (Reading Outline)

/-- What is set for all queries, and what each place changes about it (`SiftConfig`). -/
structure Settings where
  columns : Settings.ColumnNames := {}
  limits : Page.Limits := {}
  dialect : Sql.Dialect := .postgresql
  overrides : List (String × Settings.Override) := []
  deriving DecidableEq

namespace Settings

/-! ## Checking -/

/-- Names are safe, and pages hold at least one row. -/
structure IsUsable (s : Settings) : Prop where
  owner : Sql.isSafe s.columns.owner = true
  dept : Sql.isSafe s.columns.dept = true
  tableAlias : ∀ a ∈ s.columns.tableAlias, Sql.isSafe a = true
  defaultSize : s.limits.defaultSize ≠ 0
  maxLimit : s.limits.maxLimit ≠ some 0

/-- Refuses a name that may not stand in SQL text. -/
def checkName (key name : String) : Except Unusable Unit :=
  if Sql.isSafe name then .ok () else .error (.unsafeName key name)

/-- Refuses the alias of a table that may not stand in SQL text. -/
def checkAlias (key : String) : Option String → Except Unusable Unit
  | some name => checkName key name
  | none => .ok ()

/-- Refuses limits that leave a page without rows. -/
def checkLimits (limits : Page.Limits) : Except Unusable Unit :=
  if limits.defaultSize = 0 then .error .noDefaultSize
  else if limits.maxLimit = some 0 then .error .noMaxLimit
  else .ok ()

/-- Refuses settings that cannot be used (`SiftConfig::validate`); the first value at fault
decides. -/
def check (s : Settings) : Except Unusable Unit := do
  checkName "data_permission.owner_column" s.columns.owner
  checkName "data_permission.dept_column" s.columns.dept
  checkAlias "data_permission.table_alias" s.columns.tableAlias
  checkLimits s.limits

/-- The settings, if they can be used. -/
def checked (s : Settings) : Except Problem Settings :=
  match s.check with
  | .ok () => .ok s
  | .error what => .error (.unusable what)

/-! ## Reading -/

/-- The outline of settings. -/
def outline : Outline where
  name := "Settings"
  fields := ["data_permission", "pagination", "sql", "environments"]
  isClosed := true

/-- Reads the override of each place. -/
def readOverrides : Json → Reading (List (String × Override))
  | .object members => members.mapM fun (name, v) => do return (name, ← Override.ofJson v)
  | v => .error (v.wrong "a map")

/-- Reads one part. -/
def set (s : Settings) (key : String) (v : Json) : Reading Settings := do
  match key with
  | "data_permission" => return { s with columns := ← ColumnNames.ofJson v }
  | "pagination" => return { s with limits := ← Page.Limits.readParts v }
  | "sql" => return { s with dialect := ← readSql v }
  | _ => return { s with overrides := ← readOverrides v }

/-- Settings, the usual ones where nothing is said. -/
def ofJson (v : Json) : Reading Settings := do
  let (s, _) ← outline.read set {} v
  return s

/-- The problem of a text that does not have the form of settings. -/
def malformed : Json.Mismatch → Problem
  | .refused reason => .malformed (some reason)
  | _ => .malformed none

/-- The settings of a TOML text in an environment (`SiftConfig::from_str`). -/
def ofText (env : Environment) (text : String) : Except Problem Settings :=
  match Toml.read? (env.expand text) with
  | none => .error (.malformed none)
  | some document =>
    match ofJson document.toJson with
    | .error m => .error (malformed m)
    | .ok s => s.checked

/-- The settings of the file at a path, whose text is given if it could be read
(`SiftConfig::from_file`). -/
def ofFile (env : Environment) (path : String) : Option String → Except Problem Settings
  | some text => ofText env text
  | none => .error (.unreadable path)

/-- The settings as JSON. -/
def toJson (s : Settings) : Json :=
  .object [("data_permission", s.columns.toJson), ("pagination", s.limits.toJson),
    ("sql", sqlJson s.dialect),
    ("environments", .object (s.overrides.map fun (name, o) => (name, o.toJson)))]

/-! ## Overrides -/

/-- The columns after a change that may be missing. -/
def changedColumns : Option ColumnChange → ColumnNames → ColumnNames
  | some c, names => c.apply names
  | none, names => names

/-- The limits after a change that may be missing. -/
def changedLimits : Option LimitChange → Page.Limits → Except Unusable Page.Limits
  | some c, limits => c.apply limits
  | none, limits => .ok limits

/-- The settings with the changes of an override. -/
def apply (o : Override) (s : Settings) : Except Unusable Settings := do
  let limits ← changedLimits o.limits s.limits
  return { s with columns := changedColumns o.columns s.columns, limits,
                  dialect := o.dialect.getD s.dialect }

/-- The settings without the override of a place. -/
def withoutOverride (s : Settings) (name : String) : Settings :=
  { s with overrides := s.overrides.filter (·.1 != name) }

/-- The settings of a place, in which its override has been used up
(`SiftConfig::with_environment`). Without an override for the place the settings stay as they
are. -/
def withOverride (s : Settings) (name : String) : Except Problem Settings :=
  match s.overrides.lookup name with
  | none => s.checked
  | some o =>
    match apply o (s.withoutOverride name) with
    | .ok changed => changed.checked
    | .error what => .error (.unusable what)

/-- A place of which nothing is said changes nothing, but the settings are checked again. -/
theorem withOverride_of_lookup {s : Settings} {name : String}
    (h : s.overrides.lookup name = none) : s.withOverride name = s.checked := by
  rw [withOverride, h]

/-! ## Use -/

/-- The resolver of scopes over the columns that are set (`SiftConfig::scope_resolver`). -/
def resolver (s : Settings) (organization : Access.Organization) : Access.Resolver :=
  ⟨s.columns.columns, organization⟩

/-- The renderer for the dialect that is set (`SiftConfig::renderer`). -/
def renderer (s : Settings) : Sql.Renderer := { dialect := s.dialect }

end Settings
end RowFilter
