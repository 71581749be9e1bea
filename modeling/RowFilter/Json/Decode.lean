import RowFilter.Json.Printer

/-!
# Reading structures from JSON

A structure is read from an object by the names of its members, or from an array by their
positions; a choice is read from a string or from an object of one member. What does not fit is a
`Mismatch`, whose message says what was found and what was expected. Members are looked at in the
order of the object, so the first that does not fit decides; what is missing is told only after
them.
-/

namespace RowFilter.Json

/-! ## Mismatches -/

/-- Why a value could not be read. -/
inductive Mismatch where
  | wrongType (found expected : String)
  | wrongValue (found expected : String)
  | wrongLength (length : Nat) (expected : String)
  | missing (field : String)
  | unknownField (name : String) (known : List String)
  | unknownVariant (name : String) (known : List String)
  /-- None of the forms of a type fits. -/
  | noForm (type : String)
  | refused (reason : String)
  deriving DecidableEq

/-- A list of choices in a message. -/
def oneOf : List String → String
  | [] => "there are no choices"
  | [a] => s!"expected `{a}`"
  | [a, b] => s!"expected `{a}` or `{b}`"
  | names => "expected one of " ++ ", ".intercalate (names.map fun n => s!"`{n}`")

/-- What a mismatch says. -/
def Mismatch.message : Mismatch → String
  | wrongType found expected => s!"invalid type: {found}, expected {expected}"
  | wrongValue found expected => s!"invalid value: {found}, expected {expected}"
  | wrongLength n expected => s!"invalid length {n}, expected {expected}"
  | missing field => s!"missing field `{field}`"
  | unknownField name known => s!"unknown field `{name}`, {oneOf known}"
  | unknownVariant name known => s!"unknown variant `{name}`, {oneOf known}"
  | noForm type => s!"data did not match any variant of untagged enum {type}"
  | refused reason => reason

/-- Reading a value, or saying why it cannot be read. -/
abbrev Reading (α : Type) := Except Mismatch α

/-- A value as a mismatch names it. -/
def found : Json → String
  | null => "null"
  | bool true => "boolean `true`"
  | bool false => "boolean `false`"
  | number (.whole n _ _) => s!"integer `{n}`"
  | number (.real x _) => s!"floating point `{x.toJsonText}`"
  | string s => s!"string {Text.Quoted.shown s}"
  | array _ => "sequence"
  | object _ => "map"

/-- The mismatch of a value that has the wrong type. -/
def wrong (v : Json) (expected : String) : Mismatch := .wrongType v.found expected

/-! ## Plain values -/

/-- A string. -/
def readString : Json → Reading String
  | string s => .ok s
  | v => .error (v.wrong "a string")

/-- A truth value. -/
def readBool : Json → Reading Bool
  | bool b => .ok b
  | v => .error (v.wrong "a boolean")

/-- A whole number between two bounds. -/
def readWhole (type : String) (low high : Int) : Json → Reading Int
  | number (.whole n l h) =>
    if low ≤ n ∧ n ≤ high then .ok n
    else .error (.wrongValue (found (number (.whole n l h))) type)
  | v => .error (v.wrong type)

/-- A whole number of sixty-four bits with its sign. -/
def readInt64 (v : Json) : Reading Int64 :=
  (v.readWhole "i64" (-0x8000000000000000) 0x7fffffffffffffff).map Int64.ofInt

/-- A natural number of sixty-four bits. -/
def readUInt64 (v : Json) : Reading UInt64 :=
  (v.readWhole "u64" 0 0xffffffffffffffff).map fun n => UInt64.ofNat n.toNat

/-- Something or null. -/
def readOption {α : Type} (read : Json → Reading α) : Json → Reading (Option α)
  | null => .ok none
  | v => (read v).map some

/-- A sequence. -/
def readList {α : Type} (read : Json → Reading α) : Json → Reading (List α)
  | array items => items.mapM read
  | v => .error (v.wrong "a sequence")

/-! ## Structures -/

/-- The outline of a structure: its name, its fields in order, and whether other names are
refused. -/
structure Outline where
  name : String
  fields : List String
  isClosed : Bool := false

/-- Where the fields of a structure came from. -/
inductive Origin where
  | members
  | positions
  deriving DecidableEq

namespace Outline

/-- The structure as a mismatch names it. -/
def title (o : Outline) : String := s!"struct {o.name}"

/-- The structure with the number of its fields, as a mismatch names it. -/
def titleWithSize (o : Outline) : String :=
  let unit := if o.fields.length = 1 then "element" else "elements"
  s!"struct {o.name} with {o.fields.length} {unit}"

/-- One member of the object of a structure. -/
def member {σ : Type} (o : Outline) (set : σ → String → Json → Reading σ) (s : σ)
    (m : String × Json) : Reading σ :=
  if o.fields.contains m.1 then set s m.1 m.2
  else if o.isClosed then .error (.unknownField m.1 o.fields)
  else .ok s

/-- The fields of a structure put into `start` one after another, and where they came from. -/
def read {σ : Type} (o : Outline) (set : σ → String → Json → Reading σ) (start : σ) :
    Json → Reading (σ × Origin)
  | object members => do return (← members.foldlM (o.member set) start, .members)
  | array items => do
    let s ← (o.fields.zip items).foldlM (fun s m => set s m.1 m.2) start
    return (s, .positions)
  | v => .error (v.wrong o.title)

/-- Nothing may be left over when a structure is read from an array. -/
def noSurplus (o : Outline) : Json → Reading Unit
  | array items =>
    if o.fields.length < items.length then
      .error (.wrongLength items.length "fewer elements in array")
    else .ok ()
  | _ => .ok ()

/-- Every position has to be filled when a structure is read from an array. -/
def noGap (o : Outline) : Json → Reading Unit
  | array items =>
    if items.length < o.fields.length then
      .error (.wrongLength items.length o.titleWithSize)
    else .ok ()
  | _ => .ok ()

/-- The mismatch of a field that is not there. -/
def absent (o : Outline) (origin : Origin) (field : String) : Mismatch :=
  match origin with
  | .members => .missing field
  | .positions => .wrongLength (o.fields.idxOf field) o.titleWithSize

/-- A field that has to be there. -/
def required {α : Type} (o : Outline) (origin : Origin) (field : String) :
    Option α → Reading α
  | some a => .ok a
  | none => .error (o.absent origin field)

/-- A field that may be missing among members, but whose position has to be filled. -/
def optional {α : Type} (o : Outline) (origin : Origin) (field : String) :
    Option (Option α) → Reading (Option α)
  | some a => .ok a
  | none => if origin = .members then .ok none else .error (o.absent origin field)

end Outline

/-! ## Choices -/

/-- The name of a choice and what comes with it. -/
def readChoice : Json → Reading (String × Option Json)
  | string s => .ok (s, none)
  | object [(name, v)] => .ok (name, some v)
  | object _ => .error (.wrongValue "map" "map with a single key")
  | v => .error (v.wrong "string or map")

/-- One of several named values, each with all its names, with nothing attached. -/
def readName {α : Type} (names : α → List String) (all : List α) (v : Json) : Reading α := do
  let (name, payload) ← v.readChoice
  match all.find? fun a => (names a).contains name with
  | none => .error (.unknownVariant name (all.flatMap names))
  | some a =>
    match payload with
    | none | some null => .ok a
    | some p => .error (p.wrong "unit")

end RowFilter.Json
