import RowFilter.Record.Phrase

/-!
# The grammar of phrases

The phrases of the language hold each other: a type may hold an expression, which may hold a type.
`Grammar` names the readers that lead from one kind of phrase to another. The readers of each kind
are written for a given grammar, whose readers they call for the phrases inside; `Complete` ties
them together.
-/

namespace RowFilter.Record

/-! ## What a reader finds -/

/-- The arguments of a step of a path. -/
inductive StepArguments where
  | absent
  | empty
  | present
  deriving DecidableEq

/-- What a path is made of. -/
structure PathForm where
  /-- It begins with a type. -/
  isQualified : Bool := false
  /-- It begins with a separator. -/
  isRooted : Bool := false
  steps : List StepArguments

/-- No step of the path has arguments. -/
def PathForm.isBare (p : PathForm) : Bool := p.steps.all (· == .absent)

/-- The last step of the path has no argument. -/
def PathForm.endsBare (p : PathForm) : Bool := p.steps.getLast?.all (· != .present)

/-- What a bound is. -/
inductive BoundForm where
  | lifetime
  | trait
  | capture
  deriving DecidableEq

/-- What a type is, as far as it matters. -/
inductive TypeForm where
  | path (p : PathForm)
  /-- Bounds without a word before them; there may be just one, without a plus after it. -/
  | bounds (isSingle : Bool)
  | other

/-- What an expression is, as far as it matters. -/
inductive ExpressionForm where
  | range
  | comparison
  /-- It ends with a block and is a statement of its own. -/
  | block
  /-- A call whose text another program replaces, with its brackets. -/
  | call (b : Bracket)
  | other
  deriving DecidableEq

/-- How tightly operators bind. -/
inductive Precedence where
  | jump
  | assign
  | range
  | or
  | and
  | binding
  | compare
  | bitOr
  | bitXor
  | bitAnd
  | shift
  | sum
  | product
  | cast
  deriving DecidableEq

/-- The rank of a precedence: a higher one binds tighter. -/
def Precedence.rank : Precedence → Nat
  | jump => 0
  | assign => 1
  | range => 2
  | or => 3
  | and => 4
  | binding => 5
  | compare => 6
  | bitOr => 7
  | bitXor => 8
  | bitAnd => 9
  | shift => 10
  | sum => 11
  | product => 12
  | cast => 13

/-! ## The readers -/

/-- Readers of the phrases that others hold. -/
structure Grammar where
  /-- A type; the flag says whether bounds may be added to it. -/
  type : Bool → Phrase TypeForm
  /-- A path outside expressions. -/
  path : Phrase PathForm
  /-- A parameter. -/
  parameter : Phrase Parameter
  /-- An expression; the flag says whether braces after a path belong to it. -/
  expression : Bool → Phrase ExpressionForm
  /-- An expression without operators between its parts; the flag is as before. -/
  operand : Bool → Phrase ExpressionForm
  /-- Operators of a precedence and above, with what follows them, after an expression. -/
  operators : Bool → Precedence → ExpressionForm → Phrase ExpressionForm
  /-- One case of several, with its pattern. -/
  arm : Phrase Unit
  /-- Statements that fill a block. -/
  statements : Phrase Unit
  /-- A pattern without alternatives; the answer says whether it is a range without one of its
  ends. -/
  pattern : Phrase Bool
  /-- A member of a record. -/
  member : Phrase Member
  /-- An item. -/
  item : Phrase Unit
  /-- What is used of a path; the flag says whether it may begin with a separator, and the answer
  whether something in it did. -/
  use : Bool → Phrase Bool

/-- The grammar without phrases. -/
def Grammar.empty : Grammar where
  type _ := Phrase.wanted "phrase"
  path := Phrase.wanted "phrase"
  parameter := Phrase.wanted "phrase"
  expression _ := Phrase.wanted "phrase"
  operand _ := Phrase.wanted "phrase"
  operators _ _ _ := Phrase.wanted "phrase"
  arm := Phrase.wanted "phrase"
  statements := Phrase.wanted "phrase"
  pattern := Phrase.wanted "phrase"
  member := Phrase.wanted "phrase"
  item := Phrase.wanted "phrase"
  use _ := Phrase.wanted "phrase"

end RowFilter.Record
