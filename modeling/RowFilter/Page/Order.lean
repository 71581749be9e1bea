import RowFilter.Sql.Identifier
import RowFilter.Text.Blank
import RowFilter.Text.Words

/-!
# Sort orders

A sort key is a column with a direction. It is read from an entry such as `createTime,desc`: the
name before the first comma is spelt with underscores, as columns are, and has to be a safe
identifier.

Headline: `ofName_eq_ok_iff`: a name makes a key exactly if the column it is spelt as is safe.
-/

namespace RowFilter.Page

open Sql

/-- Ascending or descending (`SortOrder`). -/
inductive Direction where
  | ascending
  | descending
  deriving DecidableEq

namespace Direction

/-- The keyword of a direction. -/
def keyword : Direction → String
  | ascending => "ASC"
  | descending => "DESC"

/-- A direction by the name under which it is stored. -/
def ofJson (v : Json) : Json.Reading Direction :=
  v.readName (fun d => match d with
    | ascending => ["Asc"]
    | descending => ["Desc"]) [ascending, descending]

/-- A direction as an entry gives it, in any case; without one the order ascends. -/
def parse : Option String → Except Fault Direction
  | none => .ok ascending
  | some text =>
    match String.ofList (text.toList.map Char.toLower) with
    | "asc" => .ok ascending
    | "desc" => .ok descending
    | other => .error (.invalidParameter "sort" s!"direction [{other}] must be asc or desc")

end Direction

/-- A column to sort by (`OrderByField`). -/
structure SortKey where
  column : String
  direction : Direction
  deriving DecidableEq

namespace SortKey

/-- The parts of an entry around its first comma, without the blanks at their ends. -/
def splitEntry (entry : String) : String × Option String :=
  let cs := entry.toList
  let name := Text.trim (String.ofList (cs.takeWhile (· != ',')))
  match cs.dropWhile (· != ',') with
  | [] => (name, none)
  | _ :: rest => (name, some (Text.trim (String.ofList rest)))

/-- The key of a field name, spelt as its column. -/
def ofName (name : String) (direction : Direction) : Except Fault SortKey :=
  if isSafe (Text.underscore name) then .ok ⟨Text.underscore name, direction⟩
  else .error (.invalidParameter "sort" s!"[{name}] is not a sortable field")

/-- A name makes a key exactly if the column it is spelt as is safe. -/
theorem ofName_eq_ok_iff {name : String} {direction : Direction} {k : SortKey} :
    ofName name direction = .ok k ↔
      isSafe k.column = true ∧ k.column = Text.underscore name ∧ k.direction = direction := by
  unfold ofName
  by_cases hsafe : isSafe (Text.underscore name) = true
  · rw [if_pos hsafe]
    constructor
    · intro h
      obtain rfl := Except.ok.inj h
      exact ⟨hsafe, rfl, rfl⟩
    · rintro ⟨-, hcolumn, rfl⟩
      rw [← hcolumn]
  · rw [if_neg hsafe]
    constructor
    · rintro ⟨⟩
    · rintro ⟨hk, hcolumn, -⟩
      exact absurd (hcolumn ▸ hk) hsafe

/-- The key that an entry asks for (`OrderByField::parse`); the direction is looked at before the
name. -/
def parse (entry : String) : Except Fault SortKey := do
  ofName (splitEntry entry).1 (← Direction.parse (splitEntry entry).2)

/-- The key in SQL. -/
def toSql (d : Dialect) (k : SortKey) : Except Fault String := do
  return (← quoteIdentifier d k.column) ++ " " ++ k.direction.keyword

end SortKey

/-- Sort keys, the most significant first (`OrderBy`). -/
structure Order where
  keys : List SortKey := []
  deriving DecidableEq

namespace Order

/-- The order with one more key after the others (`OrderBy::then`). -/
def andThen (o : Order) (k : SortKey) : Order := ⟨o.keys ++ [k]⟩

/-- The order leaves rows as they are. -/
def isEmpty (o : Order) : Bool := o.keys.isEmpty

/-- The order that entries ask for; the first that cannot be read decides. -/
def parse (entries : List String) : Except Fault Order := do
  return ⟨← entries.mapM SortKey.parse⟩

/-- The clause that sorts a query, or nothing without keys (`OrderBy::to_sql`). -/
def toSql (o : Order) (d : Dialect) : Except Fault String := do
  if o.keys.isEmpty then return ""
  return "ORDER BY " ++ ", ".intercalate (← o.keys.mapM (SortKey.toSql d))

end Order
end RowFilter.Page
