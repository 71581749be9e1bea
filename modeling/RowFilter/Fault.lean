/-!
# Faults

Whatever goes wrong in compiling criteria, resolving scopes, paging or configuring is a `Fault`: a
code, a message and the context that names the part at fault. No fault is ever retried, and none
leaves a partial filter behind.

A fault about a field or a role names it both in its message and in its context. `isClient` and
`isScope` sort the codes by who is to blame, and `report` is the whole fault for a reader.

Headline: `names_invalidParameter`: a fault about a parameter names it.
-/

namespace RowFilter

/-! ## Codes -/

/-- What kind of thing went wrong (`ErrorCode`). -/
inductive Code where
  | reflection
  | invalidRange
  | emptyCollection
  | unsupportedOperator
  | missingScopeData
  | collaboratorFailed
  | invalidParameter
  | invalidConfiguration
  | internal
  deriving DecidableEq

namespace Code

/-- Every code, in ascending order. -/
def all : List Code :=
  [reflection, invalidRange, emptyCollection, unsupportedOperator, missingScopeData,
   collaboratorFailed, invalidParameter, invalidConfiguration, internal]

/-- The number of a code: its first digit is the part concerned. -/
def number : Code → Nat
  | reflection => 1001
  | invalidRange => 1002
  | emptyCollection => 1003
  | unsupportedOperator => 1004
  | missingScopeData => 2001
  | collaboratorFailed => 2002
  | invalidParameter => 5003
  | invalidConfiguration => 7001
  | internal => 9001

/-- The written form of a code. -/
def text (c : Code) : String := "S" ++ toString c.number

/-- A short description. -/
def description : Code → String
  | reflection => "Criteria cannot be introspected"
  | invalidRange => "Invalid range operand"
  | emptyCollection => "Empty collection operand"
  | unsupportedOperator => "Unsupported operator"
  | missingScopeData => "Missing data scope data"
  | collaboratorFailed => "Collaborator failed"
  | invalidParameter => "Invalid parameter"
  | invalidConfiguration => "Invalid configuration"
  | internal => "Internal error"

end Code

/-! ## Faults -/

/-- What is known about a fault beyond its message (`ErrorContext`). -/
structure Context where
  operation : Option String := none
  field : Option String := none
  role : Option String := none
  suggestions : List String := []
  help : Option String := none
  deriving DecidableEq

/-- A failure, with the text of the failure below it, if any (`QueryError`). -/
structure Fault where
  code : Code
  message : String
  context : Context := {}
  source : Option String := none
  deriving DecidableEq

namespace Fault

/-! ## Adding context -/

/-- Names the operation under way. -/
def during (f : Fault) (operation : String) : Fault :=
  { f with context := { f.context with operation := some operation } }

/-- Adds a way to mend the fault. -/
def suggest (f : Fault) (suggestion : String) : Fault :=
  { f with context := { f.context with suggestions := f.context.suggestions ++ [suggestion] } }

/-- Sets the help text. -/
def withHelp (f : Fault) (help : String) : Fault :=
  { f with context := { f.context with help := some help } }

/-- Names the field at fault. -/
def atField (f : Fault) (field : String) : Fault :=
  { f with context := { f.context with field := some field } }

/-- Names the role at fault. -/
def atRole (f : Fault) (role : String) : Fault :=
  { f with context := { f.context with role := some role } }

/-- Attaches the failure below. -/
def causedBy (f : Fault) (source : String) : Fault := { f with source := some source }

/-! ## The faults of the library -/

/-- A fault with nothing but its code and message. -/
def plain (code : Code) (message : String) : Fault := { code, message }

/-- The criteria do not have the shape of their descriptors. -/
def reflection (message : String) : Fault :=
  (plain .reflection s!"Cannot introspect criteria: {message}").withHelp
    "Criteria must be a struct deriving Criteria or a JSON object matching its schema"

/-- A range without exactly two bounds. -/
def invalidRange (field : String) : Fault :=
  ((plain .invalidRange s!"[{field}] must be a range of exactly two values").atField field).suggest
    "Send the lower and upper bound, in that order"

/-- A membership test against nothing. -/
def emptyCollection (field : String) : Fault :=
  (plain .emptyCollection s!"[{field}] must not be empty").atField field

/-- An operator that is unknown or switched off. -/
def unsupportedOperator (operator : String) : Fault :=
  (plain .unsupportedOperator s!"Operator [{operator}] is not supported").withHelp
    "Check the operator name against OperatorKind or enable it in the registry"

/-- A role without the data that its scope needs. -/
def missingScopeData (role message : String) : Fault :=
  ((plain .missingScopeData s!"Role [{role}] is misconfigured: {message}").atRole role).withHelp
    "Validate data scope settings when the role is assigned"

/-- A collaborator that failed. -/
def collaborator (name message : String) : Fault :=
  plain .collaboratorFailed s!"{name} failed: {message}"

/-- A parameter that the caller has to change. -/
def invalidParameter (field message : String) : Fault :=
  (plain .invalidParameter s!"Invalid parameter {field}: {message}").atField field

/-- A setting that cannot be used. -/
def invalidConfiguration (message : String) : Fault :=
  plain .invalidConfiguration s!"Invalid configuration: {message}"

/-- A broken promise inside the library. -/
def internal (message : String) : Fault :=
  plain .internal s!"Internal error: {message}"

/-! ## Faults about a field -/

/-- The fault names a field, in its context and in its message. -/
structure Names (e : Fault) (field : String) : Prop where
  context : e.context.field = some field
  message : field.toList <:+: e.message.toList

/-- The fault of a range names the field. -/
theorem names_invalidRange (field : String) : (invalidRange field).Names field where
  context := rfl
  message := by
    show field.toList <:+: ("[" ++ field ++ "] must be a range of exactly two values").toList
    rw [String.toList_append, String.toList_append]
    exact List.infix_append _ _ _

/-- The fault of a parameter names it. -/
theorem names_invalidParameter (field message : String) :
    (invalidParameter field message).Names field where
  context := rfl
  message := by
    show field.toList <:+: ("Invalid parameter " ++ field ++ ": " ++ message).toList
    rw [String.append_assoc, String.toList_append, String.toList_append]
    exact List.infix_append _ _ _

/-! ## Classes -/

/-- The caller's input is to blame (`QueryError::is_client_error`): an operand or a parameter. -/
def isClient (f : Fault) : Bool :=
  match f.code with
  | .invalidRange | .emptyCollection | .invalidParameter => true
  | _ => false

/-- The authorization data is to blame (`QueryError::is_scope_error`). -/
def isScope (f : Fault) : Bool :=
  match f.code with
  | .missingScopeData | .collaboratorFailed => true
  | _ => false

/-- Whether the same call could succeed later (`QueryError::is_retryable`); it never could. -/
def isRetryable (_ : Fault) : Bool := false

/-! ## Text -/

/-- The code and the message on one line. -/
def text (f : Fault) : String := s!"[{f.code.text}] {f.message}"

/-- One line of context, when there is one. -/
def contextLine (label : String) : Option String → String
  | some value => s!"  → {label}: {value}\n"
  | none => ""

/-- The suggestions as a numbered list. -/
def numbered (suggestions : List String) : String :=
  String.join (suggestions.zipIdx.map fun (s, i) => s!"  {i + 1}. {s}\n")

/-- The fault with all its context, for a reader (`QueryError::display_full`). -/
def report (f : Fault) : String :=
  s!"Error [{f.code.text}]: {f.message}\n"
    ++ contextLine "While" f.context.operation
    ++ contextLine "Field" f.context.field
    ++ contextLine "Role" f.context.role
    ++ (if f.context.suggestions.isEmpty then ""
        else "\nSuggestions:\n" ++ numbered f.context.suggestions)
    ++ (match f.context.help with
        | some help => s!"\nHelp: {help}\n"
        | none => "")

end Fault
end RowFilter
