import RowFilter.Predicate
import RowFilter.Sql.Identifier

/-!
# Predicates as SQL

A predicate becomes a *fragment*: SQL text with holes, and the values that fill the holes from left
to right. Spelling a fragment out in a dialect numbers the holes. No value reaches the text: every
operand is bound, and columns pass `checkIdentifier`.

Headlines:
* `holes_append`: joined texts have the holes of both, in order;
* `spell_append`: the holes of joined texts are numbered one after another.
-/

namespace RowFilter.Sql

/-! ## Fragments -/

/-- A piece of SQL text, or a hole for a value. -/
inductive Piece where
  | text (s : String)
  | hole
  deriving DecidableEq

/-- SQL text with holes and the values for them, as a `SqlBuilder` gathers them. -/
structure Fragment where
  pieces : List Piece
  values : List Value

namespace Fragment

/-- Text without a hole. -/
def ofText (s : String) : Fragment := ⟨[.text s], []⟩

/-- A hole for a value. -/
def ofValue (v : Value) : Fragment := ⟨[.hole], [v]⟩

/-- One fragment after another. -/
def append (a b : Fragment) : Fragment := ⟨a.pieces ++ b.pieces, a.values ++ b.values⟩

instance : Append Fragment := ⟨append⟩

/-- Fragments with a text between each two. -/
def joined (separator : String) : List Fragment → Fragment
  | [] => ⟨[], []⟩
  | [f] => f
  | f :: g :: rest => f ++ ofText separator ++ joined separator (g :: rest)

/-- A fragment between parentheses. -/
def parenthesized (f : Fragment) : Fragment := ofText "(" ++ f ++ ofText ")"

/-- The number of holes among pieces. -/
def holes (pieces : List Piece) : Nat := pieces.countP (· = .hole)

/-- Joined texts have the holes of both. -/
theorem holes_append (a b : List Piece) : holes (a ++ b) = holes a + holes b :=
  List.countP_append ..

/-- The pieces spelt out, the holes being numbered from an index on. -/
def spell (d : Dialect) : Nat → List Piece → List String
  | _, [] => []
  | index, .text s :: rest => s :: spell d index rest
  | index, .hole :: rest => d.placeholder index :: spell d (index + 1) rest

/-- The holes of joined texts are numbered one after another. -/
theorem spell_append (d : Dialect) (index : Nat) (a b : List Piece) :
    spell d index (a ++ b) = spell d index a ++ spell d (index + holes a) b := by
  induction a generalizing index with
  | nil => simp [spell, holes]
  | cons p a ih =>
    cases p with
    | text s => simp [spell, ih, holes]
    | hole => simp [spell, ih, holes, Nat.add_assoc, Nat.add_comm 1]

end Fragment

/-! ## Comparisons -/

/-- The sign of an operator between a column and one value (`comparison_symbol`). -/
def sign? : Operator → Option String
  | .equal => some "="
  | .notEqual => some "<>"
  | .greaterThan => some ">"
  | .lessThan => some "<"
  | .greaterOrEqual => some ">="
  | .lessOrEqual => some "<="
  | _ => none

/-- The text that a pattern searches for (`like_text`). -/
def searchText (column : String) : Value → Except Fault String
  | .text s => .ok s
  | .int n => .ok (toString n.toInt)
  | .float x => .ok x.toText
  | .bool b => .ok (if b then "true" else "false")
  | _ => .error (.invalidParameter column "LIKE needs a text value")

/-- The fault of an operand that does not suit its operator (`malformed`). -/
def malformed (c : Comparison) : Fault :=
  .internal s!"operand does not match operator {c.operator.name} on [{c.column}]"

/-- What follows the column of a comparison with one value. -/
def singleFragment (d : Dialect) (c : Comparison) (v : Value) : Except Fault Fragment :=
  match c.operator.like with
  | some pattern => do
    let text ← searchText c.column v
    return .ofText " LIKE " ++ .ofValue (.text (pattern.wrap (d.escape text)))
      ++ .ofText d.escapeClause
  | none =>
    match sign? c.operator with
    | some sign => .ok (.ofText (" " ++ sign ++ " ") ++ .ofValue v)
    | none => .error (malformed c)

/-- What follows the column of a comparison; an operand of another shape is `malformed`. -/
def operandFragment (d : Dialect) (c : Comparison) : Except Fault Fragment :=
  match c.operator, c.operand with
  | .isNull, .none => .ok (.ofText " IS NULL")
  | .isNotNull, .none => .ok (.ofText " IS NOT NULL")
  | .between, .range low high =>
    .ok (.ofText " BETWEEN " ++ .ofValue low ++ .ofText " AND " ++ .ofValue high)
  | .isIn, .list (v :: vs) =>
    .ok (.ofText " IN (" ++ .joined ", " ((v :: vs).map .ofValue) ++ .ofText ")")
  | .notIn, .list (v :: vs) =>
    .ok (.ofText " NOT IN (" ++ .joined ", " ((v :: vs).map .ofValue) ++ .ofText ")")
  | _, .single v => singleFragment d c v
  | _, _ => .error (malformed c)

/-- A comparison (`SqlBuilder::push_comparison`). -/
def comparisonFragment (d : Dialect) (c : Comparison) : Except Fault Fragment := do
  let column ← quoteIdentifier d c.column
  return .ofText column ++ (← operandFragment d c)

/-! ## Predicates -/

mutual

/-- A predicate (`SqlBuilder::push_predicate`). -/
def predicateFragment (d : Dialect) : Predicate → Except Fault Fragment
  | .comparison c => comparisonFragment d c
  | .and [] => .ok (.ofText "1=1")
  | .or [] => .ok (.ofText "1=0")
  | .and (p :: ps) => do
    let f ← predicateFragment d p
    let fs ← predicateFragments d ps
    return (Fragment.joined " AND " (f :: fs)).parenthesized
  | .or (p :: ps) => do
    let f ← predicateFragment d p
    let fs ← predicateFragments d ps
    return (Fragment.joined " OR " (f :: fs)).parenthesized
  | .not p => do
    let f ← predicateFragment d p
    return .ofText "NOT " ++ f.parenthesized

/-- The members of a group (`SqlBuilder::push_group`); the first that cannot be written decides. -/
def predicateFragments (d : Dialect) : List Predicate → Except Fault (List Fragment)
  | [] => .ok []
  | p :: ps => do
    let f ← predicateFragment d p
    let fs ← predicateFragments d ps
    return f :: fs

end

/-! ## Statements -/

/-- SQL text and the values of its placeholders, in order (`RenderedSql`). -/
structure Rendered where
  sql : String
  params : List Value

/-- The text after `WHERE`, or nothing where every row matches (`RenderedSql::where_clause`). -/
def Rendered.whereClause (r : Rendered) : String :=
  if r.sql = "1=1" then "" else " WHERE " ++ r.sql

/-- A dialect and the number of its first placeholder (`SqlRenderer`). The number is a `Nat`: it is
meant to fit a machine word, and so are the numbers of the placeholders that follow. -/
structure Renderer where
  dialect : Dialect := .postgresql
  firstIndex : Nat := 1

/-- The renderer with placeholders numbered from an index on, which is at least one
(`SqlRenderer::starting_at`). -/
def Renderer.startingAt (r : Renderer) (index : Nat) : Renderer :=
  { r with firstIndex := max index 1 }

/-- The predicate as SQL (`SqlRenderer::render`). -/
def Renderer.render (r : Renderer) (p : Predicate) : Except Fault Rendered := do
  let f ← predicateFragment r.dialect p
  return ⟨String.join (Fragment.spell r.dialect r.firstIndex f.pieces), f.values⟩

end RowFilter.Sql
