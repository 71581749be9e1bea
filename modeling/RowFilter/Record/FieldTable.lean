import RowFilter.Record.Setting
import RowFilter.Criteria.Field

/-!
# Field tables

The annotations of a record list which of its members are criteria, and how each is compared. The
table has one entry for each member that carries the annotation `query`, in the order of the
declaration; of several such annotations on a member the first counts. `implementation` writes out
what makes the record usable as criteria.

Headline: `underscore_operatorVariant`: the word and the variant of an operator differ in spelling
only.
-/

namespace RowFilter.Record

/-! ## Entries -/

/-- A member that is a criterion (`QueryField`). -/
structure Entry where
  member : Word
  operator : Operator
  column : Option String
  targets : List String
  deriving DecidableEq

namespace Entry

/-- The entry of a member that is compared in some way; without an operator it is tested for
equality. -/
def ofQuery (member : Word) (q : Query) : Entry :=
  ⟨member, q.operator.getD .equal, q.column, q.targets⟩

/-- The field that an entry describes. -/
def spec (e : Entry) : FieldSpec :=
  let plain : FieldSpec := { name := e.member.name, operator := e.operator, column := e.column }
  plain.blurry e.targets

end Entry

/-! ## Tables -/

/-- The criteria of a record. -/
structure FieldTable where
  declaration : Declaration
  library : Library
  entries : List Entry

/-- The annotation of a member that makes it a criterion. -/
def Member.query? (m : Member) : Option Annotated :=
  m.annotations.find? fun a => a.path.isPlain "query"

/-- The entry of a member, if it is a criterion (`parse_query_field`). -/
def Member.entry? (m : Member) : Checked (Option Entry) :=
  match m.query? with
  | none => .ok none
  | some a => (Query.ofAnnotated a).map fun q => some (.ofQuery m.name q)

/-- The entries of members; the first member that is wrong decides the complaint. -/
def entriesOf : List Member → Checked (List Entry)
  | [] => .ok []
  | m :: ms => do
    let entry ← m.entry?
    let entries ← entriesOf ms
    return entry.toList ++ entries

/-- The table of a declared record. -/
def FieldTable.ofDeclaration (d : Declaration) : Checked FieldTable :=
  match d.shape with
  | .record members => do
    let library ← Library.ofAnnotations d.annotations .default
    return ⟨d, library, ← entriesOf members⟩
  | .tuple | .unit => .error .unnamedMembers
  | .choice | .overlay => .error .notARecord

/-! ## Writing the implementation -/

/-- The variant that stands for an operator (`OPERATORS`). -/
def operatorVariant : Operator → String
  | .equal => "Equal"
  | .notEqual => "NotEqual"
  | .greaterThan => "GreaterThan"
  | .lessThan => "LessThan"
  | .greaterOrEqual => "GreaterOrEqual"
  | .lessOrEqual => "LessOrEqual"
  | .between => "Between"
  | .leftLike => "LeftLike"
  | .innerLike => "InnerLike"
  | .rightLike => "RightLike"
  | .isIn => "In"
  | .notIn => "NotIn"
  | .isNull => "IsNull"
  | .isNotNull => "IsNotNull"

/-- Between the variant and the word of an operator there is only spelling: small letters, and
underscores between the words. -/
theorem underscore_operatorVariant (op : Operator) :
    Text.underscore (operatorVariant op) = operatorWord op := by
  cases op <;> decide +kernel

/-- The sign between the steps of a path. -/
def separator : List Token := Token.sign [':', ':']

/-- A comma. -/
def comma : Token := .mark ',' false

/-- A path from a start through names. -/
def under (start : List Token) (names : List String) : List Token :=
  start ++ names.flatMap fun n => separator ++ [Token.plain n]

/-- A method call on what stands before it. -/
def call (method : String) (arguments : List Token) : List Token :=
  [.mark '.' false, Token.plain method, .group .round arguments]

/-- The entry of a field (`generate_entry`). -/
def Entry.tokens (library : Library) (e : Entry) : List Token :=
  let spec := under library ["FieldSpec", "new"]
    ++ [.group .round ([Token.quoted e.member.name, comma]
      ++ under library ["OperatorKind", operatorVariant e.operator])]
    ++ (match e.column with
      | some column => call "column" [Token.quoted column]
      | none => [])
    ++ (if e.targets.isEmpty then []
      else call "blurry" [.group .square ((e.targets.map Token.quoted).intersperse comma)])
  let value := under library ["ToFilterValue", "to_filter_value"]
    ++ [.group .round [.mark '&' false, Token.plain "self", .mark '.' false, .word e.member]]
  under library ["CriteriaField", "new"]
    ++ [.group .round (spec ++ [comma] ++ value ++ [comma])]

/-- The entries of all fields with commas between them. -/
def entryTokens (library : Library) (es : List Entry) : List Token :=
  [comma].intercalate (es.map (Entry.tokens library))

namespace FieldTable

/-- What makes the record usable as criteria (`derive_criteria_impl`). -/
def implementation (t : FieldTable) : List Token :=
  let d := t.declaration
  let result := under t.library ["QueryResult"] ++ [.mark '<' false]
    ++ under [] ["std", "vec", "Vec"] ++ [.mark '<' false]
    ++ under t.library ["CriteriaField"] ++ Token.sign ['>', '>']
  let body := under [] ["std", "result", "Result", "Ok"]
    ++ [.group .round (under [] ["std", "vec"]
      ++ [.mark '!' false, .group .square (entryTokens t.library t.entries)])]
  [Token.plain "impl"] ++ parameterTokens Parameter.declared d.parameters
    ++ under t.library ["Criteria"] ++ [Token.plain "for", .word d.name]
    ++ parameterTokens Parameter.used d.parameters ++ d.conditions
    ++ [.group .curly ([Token.plain "fn", Token.plain "criteria_fields",
        .group .round [.mark '&' false, Token.plain "self", comma]]
      ++ Token.sign ['-', '>'] ++ result ++ [.group .curly body])]

/-- What makes the record usable as criteria, written out. -/
def text (t : FieldTable) : String := Token.spelled t.implementation

/-- The field descriptions of the record. -/
def specs (t : FieldTable) : List FieldSpec := t.entries.map Entry.spec

end FieldTable
end RowFilter.Record
