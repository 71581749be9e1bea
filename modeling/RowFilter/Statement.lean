import RowFilter.Access.Service
import RowFilter.Page.Request
import RowFilter.Settings

/-!
# List queries

A list query reads the rows of a table that match the criteria of a request and that the acting user
may see, in the order and the window that are asked for. The settings say which columns decide on
the scope, which limits the window keeps and which dialect the query is written in.
-/

namespace RowFilter

/-- SQL text and the values of its placeholders, in order. -/
structure Statement where
  text : String
  params : List Value

/-- What a list query asks for. -/
structure ListQuery where
  table : String
  /-- The fields of the criteria, or why there are none. -/
  criteria : Except Fault (List Field)
  session : Access.Session
  page : Page.Request := {}
  /-- The number of rows, if it is known. -/
  total : Option UInt64 := none

namespace ListQuery

/-- What the criteria ask for, conjoined with what the acting user may see. -/
def filter (settings : Settings) (organization : Access.Organization) (q : ListQuery) :
    Except Fault Predicate := do
  let asked ← build .standard (← q.criteria)
  let allowed ← (settings.resolver organization).resolve q.session
  return assemble asked allowed

/-- The window that is asked for, adjusted to the number of rows. -/
def window (settings : Settings) (q : ListQuery) : Except Fault Page.Window := do
  let w ← q.page.window settings.limits
  match q.total with
  | some total => return w.forTotal total
  | none => return w

/-- The text of a query from its parts. -/
def spell (table clause order window : String) : String :=
  "SELECT * FROM " ++ table ++ clause ++ " " ++ order ++ " " ++ window

/-- The query as SQL. -/
def toStatement (settings : Settings) (organization : Access.Organization) (q : ListQuery) :
    Except Fault Statement := do
  let rendered ← settings.renderer.render (← q.filter settings organization)
  let w ← q.window settings
  let order ← (← q.page.order).toSql settings.dialect
  return ⟨spell q.table rendered.whereClause order (w.toSql settings.dialect), rendered.params⟩

end ListQuery
end RowFilter
