import RowFilter.Record.Reading
import RowFilter.Operator

/-!
# Settings

The arguments of an annotation are settings with commas between them, and perhaps one after the
last. A record says with `criteria(crate = "path")` which library it is made for. A member says with
`query(...)` how it is compared: by the word of an operator, with `column = "name"`, and with
`blurry("name", ...)`. Settings are read from left to right, and the first that is wrong decides the
complaint.

Headlines: `operatorOf?_operatorWord`, an operator is found by its word, and
`splitAtCommas_append`, where the settings of a list are cut.
-/

namespace RowFilter.Record

/-! ## Complaints -/

/-- What may be found where the name of a setting should be. -/
inductive Misnamed where
  | missing
  | literal
  | token
  deriving DecidableEq

/-- Why an annotated declaration is refused. -/
inductive Complaint where
  /-- Only records can be criteria. -/
  | notARecord
  /-- The members have no names. -/
  | unnamedMembers
  /-- The annotation needs arguments. -/
  | bare (name : String)
  /-- The annotation takes its arguments between parentheses. -/
  | assigned (name : String)
  /-- The tokens are not what was looked for. -/
  | refused (r : Refusal)
  /-- A setting has no name. -/
  | misnamed (found : Misnamed)
  /-- A text is not made of tokens. -/
  | unreadable
  /-- A text that has to be read on has a suffix. -/
  | suffixed (suffix : String)
  /-- The record is given something other than a library. -/
  | unknownSetting
  /-- An operator that is a path. -/
  | operatorPath
  /-- An operator that does not exist. -/
  | unknownOperator (word : String)
  /-- A second operator. -/
  | secondOperator
  /-- A search without columns. -/
  | noTargets
  deriving DecidableEq

/-! ## Operators -/

/-- The word of an operator in a setting (`OPERATORS`). -/
def operatorWord : Operator → String
  | .equal => "equal"
  | .notEqual => "not_equal"
  | .greaterThan => "greater_than"
  | .lessThan => "less_than"
  | .greaterOrEqual => "greater_or_equal"
  | .lessOrEqual => "less_or_equal"
  | .between => "between"
  | .leftLike => "left_like"
  | .innerLike => "inner_like"
  | .rightLike => "right_like"
  | .isIn => "in"
  | .notIn => "not_in"
  | .isNull => "is_null"
  | .isNotNull => "is_not_null"

/-- The operator of a word. -/
def operatorOf? (word : String) : Option Operator :=
  Operator.all.find? fun op => operatorWord op == word

/-- An operator is found by its word. -/
theorem operatorOf?_operatorWord (op : Operator) : operatorOf? (operatorWord op) = some op := by
  cases op <;> decide

/-- The words of all operators, for a reader. -/
def operatorWords : String := ", ".intercalate (Operator.all.map operatorWord)

namespace Complaint

/-- The complaint in words. -/
def message : Complaint → String
  | notARecord => "Criteria derive only supports structs"
  | unnamedMembers => "Criteria derive only supports structs with named fields"
  | bare a => "expected attribute arguments in parentheses: #[" ++ a ++ "(...)]"
  | assigned a => "expected parentheses: #[" ++ a ++ "(...)]"
  | refused r => r.message
  | misnamed .missing => Refusal.message (.expected "nested attribute" true)
  | misnamed .literal => "unexpected literal in nested attribute, expected ident"
  | misnamed .token => "unexpected token in nested attribute, expected ident"
  | unreadable => "cannot parse string into token stream"
  | suffixed s => s!"unexpected suffix `{s}` on string literal"
  | unknownSetting => "unsupported criteria attribute, expected `crate = \"...\"`"
  | operatorPath => s!"expected one of: {operatorWords}, column, blurry"
  | unknownOperator w =>
    s!"unknown query operator `{w}`, expected one of: {operatorWords}"
  | secondOperator => "only one operator may be given per field"
  | noTargets => "blurry needs at least one column"

end Complaint

/-- What reading a part of an annotation gives. -/
abbrev Checked := Except Complaint

/-- Something else was expected. -/
def Complaint.wanted (what : String) (atEnd : Bool) : Complaint := refused (.expected what atEnd)

/-- A sign was expected. -/
def Complaint.wantedSign (s : String) : Complaint := refused (.expectedSign s)

/-! ## Cutting -/

/-- The pieces between the commas. -/
def splitAtCommas : List Token → List (List Token)
  | [] => [[]]
  | t :: ts =>
    if t.isMark ',' then [] :: splitAtCommas ts
    else
      match splitAtCommas ts with
      | [] => [[t]]
      | piece :: pieces => (t :: piece) :: pieces

/-- The pieces of a list, which may end with a comma. -/
def pieces (ts : List Token) : List (List Token) :=
  let cut := splitAtCommas ts
  if cut.getLast?.any List.isEmpty then cut.dropLast else cut

/-- A list is cut behind its first piece. -/
theorem splitAtCommas_append {piece : List Token} (h : ∀ t ∈ piece, t.isMark ',' = false)
    (j : Bool) (ts : List Token) :
    splitAtCommas (piece ++ .mark ',' j :: ts) = piece :: splitAtCommas ts := by
  induction piece with
  | nil => simp [splitAtCommas, Token.isMark]
  | cons t piece ih =>
    have ht := h t List.mem_cons_self
    simp only [List.cons_append, splitAtCommas, ht, Bool.false_eq_true, if_false,
      ih fun u hu => h u (List.mem_cons_of_mem _ hu)]

/-- Reads the pieces of a list in turn, on what has been gathered so far. Each is told whether the
list ends with it: no piece follows, and no comma. -/
def readPieces {α : Type} (read : α → Bool → List Token → Checked α) (ts : List Token) (a : α) :
    Checked α :=
  go (ts.getLast?.any (Token.isMark ',')) a (pieces ts)
where
  /-- Reads pieces, the last of which may have a comma after it. -/
  go (trailing : Bool) (a : α) : List (List Token) → Checked α
    | [] => .ok a
    | piece :: rest => do go trailing (← read a (rest.isEmpty && !trailing) piece) rest

/-! ## Parts of a setting -/

/-- The words after a separator, each of which may be reserved. -/
def readMoreWords (atEnd : Bool) : List Token → Checked (List Word × List Token)
  | .mark ':' true :: .mark ':' _ :: .word w :: ts => do
    let (ws, rest) ← readMoreWords atEnd ts
    return (w :: ws, rest)
  | .mark ':' true :: .mark ':' _ :: ts => .error (.wanted "ident" (atEnd && ts.isEmpty))
  | ts => .ok ([], ts)

/-- The name of a setting and what follows it. -/
def readSettingName (atEnd : Bool) (ts : List Token) : Checked (Path × List Token) :=
  let isRooted := atSign "::" ts
  match if isRooted then ts.drop 2 else ts with
  | .word w :: ts => do
    let (ws, rest) ← readMoreWords atEnd ts
    return (⟨isRooted, w :: ws⟩, rest)
  | [] => .error (.misnamed (if atEnd then .missing else .token))
  | ts => .error (.misnamed (if atLiteral ts then .literal else .token))

/-- A text, with its suffix. -/
def readText (atEnd : Bool) : List Token → Checked (String × String × List Token)
  | .literal (.text value) _ suffix :: ts => .ok (value, suffix, ts)
  | ts => .error (.wanted "string literal" (atEnd && ts.isEmpty))

/-- The text that is assigned to a setting. -/
def readAssigned (atEnd : Bool) (ts : List Token) : Checked (String × String × List Token) :=
  if atSign "=" ts then readText atEnd (ts.drop 1)
  else .error (.wantedSign "=")

/-- Nothing but a comma may follow a setting. -/
def finished : List Token → Checked Unit
  | [] => .ok ()
  | _ => .error (.wantedSign ",")

/-- The texts of a list, one at least (`parse_blurry`). -/
def readTexts (ts : List Token) : Checked (List String) := do
  let texts ← readPieces (fun texts _ piece => do
    let (value, _, rest) ← readText false piece
    finished rest
    return texts ++ [value]) ts []
  if texts.isEmpty then .error .noTargets else .ok texts

/-- The arguments of an annotation. -/
def Annotated.arguments? (a : Annotated) (name : String) : Checked (List Token) :=
  match a.arguments with
  | .nothing => .error (.bare name)
  | .assigned _ => .error (.assigned name)
  | .listed _ content => .ok content

/-! ## Records -/

/-- The path of a library. -/
abbrev Library := List Token

/-- The library that records are made for unless they say otherwise. -/
def Library.default : Library := Token.sign [':', ':'] ++ [Token.plain "sift_query"]

/-- The path of a library, from the text that names it. -/
def Library.ofText (text suffix : String) : Checked Library :=
  match Scan.tokens? text with
  | none => .error .unreadable
  | some ts => do
    let library ← (pathOfTokens ts).mapError .refused
    if suffix.isEmpty then .ok library else .error (.suffixed suffix)

/-- A setting of a record. -/
def readLibrarySetting (_ : Library) (atEnd : Bool) (piece : List Token) : Checked Library := do
  let (path, rest) ← readSettingName atEnd piece
  if path.isPlain "crate" then
    let (text, suffix, rest) ← readAssigned atEnd rest
    let library ← Library.ofText text suffix
    finished rest
    return library
  else .error .unknownSetting

/-- The library that the annotations of a record name (`parse_struct_attrs`); the last one that does
counts. -/
def Library.ofAnnotations : List Annotated → Library → Checked Library
  | [], library => .ok library
  | a :: as, library => do
    if a.path.isPlain "criteria" then
      ofAnnotations as (← readPieces readLibrarySetting (← a.arguments? "criteria") library)
    else ofAnnotations as library

/-! ## Members -/

/-- How a member is compared, as far as its annotation says. -/
structure Query where
  operator : Option Operator := none
  column : Option String := none
  targets : List String := []
  deriving DecidableEq

/-- The operator that a setting names (`operator_variant`). -/
def readOperator (path : Path) : Checked Operator :=
  match path.word? with
  | none => .error .operatorPath
  | some w =>
    match operatorOf? w.text with
    | some op => .ok op
    | none => .error (.unknownOperator w.text)

/-- A setting of a member. -/
def Query.set (q : Query) (atEnd : Bool) (piece : List Token) : Checked Query := do
  let (path, rest) ← readSettingName atEnd piece
  if path.isPlain "column" then
    let (column, _, rest) ← readAssigned atEnd rest
    finished rest
    return { q with column := some column }
  else if path.isPlain "blurry" then
    match rest with
    | .group .round content :: rest =>
      let targets ← readTexts content
      finished rest
      return { q with targets := targets }
    | rest => .error (.wanted "parentheses" (atEnd && rest.isEmpty))
  else
    let op ← readOperator path
    if q.operator.isSome then .error .secondOperator
    else
      finished rest
      return { q with operator := some op }

/-- How a member is compared, from the settings of its annotation. -/
def Query.ofSettings (content : List Token) : Checked Query := readPieces Query.set content {}

/-- How a member is compared (`parse_query_field`). An annotation without arguments says nothing. -/
def Query.ofAnnotated (a : Annotated) : Checked Query :=
  match a.arguments with
  | .nothing => .ok {}
  | _ => do ofSettings (← a.arguments? "query")

end RowFilter.Record
