import RowFilter.Fault
import RowFilter.Sql.Dialect

/-!
# SQL identifiers

A column is named by one or more segments joined by dots, each a non-empty run of ASCII letters,
digits and underscores; nothing else reaches SQL text. A segment is quoted when it is a reserved
word or begins with a digit.

Headline: `joinDots_splitDots`: cutting at the dots loses nothing.
-/

namespace RowFilter.Sql

/-! ## Segments -/

/-- The pieces of a name between its dots; a name without dots is one piece. -/
def splitDots : List Char → List (List Char)
  | [] => [[]]
  | c :: cs =>
    if c = '.' then [] :: splitDots cs
    else
      match splitDots cs with
      | [] => [[c]]
      | s :: ss => (c :: s) :: ss

/-- Pieces joined by dots. -/
def joinDots (segments : List (List Char)) : List Char := List.intercalate ['.'] segments

/-- Even the empty name has a piece. -/
theorem splitDots_ne_nil (cs : List Char) : splitDots cs ≠ [] := by
  cases cs with
  | nil => simp [splitDots]
  | cons c cs =>
    unfold splitDots
    split
    · simp
    · split <;> simp

/-- Cutting at the dots loses nothing. -/
theorem joinDots_splitDots (cs : List Char) : joinDots (splitDots cs) = cs := by
  induction cs with
  | nil => rfl
  | cons c cs ih =>
    unfold splitDots
    split
    · rename_i h
      subst h
      cases hs : splitDots cs with
      | nil => exact absurd hs (splitDots_ne_nil cs)
      | cons s ss =>
        rw [hs] at ih
        simp [joinDots, List.intercalate, ← ih]
    · split
      · rename_i hs; exact absurd hs (splitDots_ne_nil cs)
      · rename_i s ss hs
        rw [hs] at ih
        cases ss <;> simp_all [joinDots, List.intercalate]

/-! ## Safety -/

/-- A letter, a digit or an underscore, of ASCII. -/
def isNameChar (c : Char) : Bool := c.isAlphanum || c == '_'

/-- A segment that may stand in SQL text. -/
def isSafeSegment (segment : List Char) : Bool := !segment.isEmpty && segment.all isNameChar

/-- A name that may stand in SQL text. -/
def isSafe (name : String) : Bool := (splitDots name.toList).all isSafeSegment

/-- The fault of a name that may not stand in SQL text. -/
def unsafeName (name : String) : Fault :=
  (Fault.invalidConfiguration s!"[{name}] is not a safe SQL identifier").withHelp
    "Column names may only contain letters, digits, underscores and a table alias"

/-- Refuses a name that may not stand in SQL text (`validate_identifier`). -/
def checkIdentifier (name : String) : Except Fault Unit :=
  if isSafe name then .ok () else .error (unsafeName name)

/-! ## Quoting -/

/-- The words that cannot stand as names without quotes (`RESERVED`). -/
def reserved : List String :=
  ["user", "order", "group", "select", "from", "where", "table", "index", "key", "primary",
   "foreign", "check", "default", "null", "not", "and", "or", "in", "is", "like", "between",
   "case", "when", "then", "else", "end", "as", "on", "join", "left", "right", "inner", "outer",
   "cross", "natural", "using", "limit", "offset", "union", "intersect", "except", "all",
   "distinct", "having", "create", "alter", "drop", "insert", "update", "delete", "into",
   "values", "set", "returning", "desc", "asc", "by"]

/-- The segment is a reserved word in any case, or begins with a digit (`needs_quoting`). -/
def needsQuoting (segment : List Char) : Bool :=
  reserved.contains (String.ofList (segment.map Char.toLower)) || segment.head?.any Char.isDigit

/-- A segment, quoted where it has to be. -/
def segmentChars (d : Dialect) (segment : List Char) : List Char :=
  if needsQuoting segment then d.quoteChars segment else segment

/-- A name as it stands in SQL text (`quote_identifier`). -/
def quoteIdentifier (d : Dialect) (name : String) : Except Fault String := do
  checkIdentifier name
  return String.ofList (joinDots ((splitDots name.toList).map (segmentChars d)))

end RowFilter.Sql
