import RowFilter.Criteria.Field
import RowFilter.Value.JsonForm

/-!
# Schemas

A schema lists the fields that a request body may hold. It is itself read from JSON, one descriptor
a field, the operator being given by its number or its name. Binding a body to a schema gives the
fields with their values: members that the schema does not know are ignored, and those that the
body lacks read as null.
-/

namespace RowFilter

open Json (Reading Outline)

/-- An ordered list of field descriptions (`CriteriaSchema`). -/
structure Schema where
  fields : List FieldSpec := []
  deriving DecidableEq

/-! ## Descriptors -/

/-- An operator given by number or by name. -/
inductive OperatorRef where
  | code (n : Nat)
  | name (s : String)

namespace OperatorRef

/-- Reads a number of one byte or a string. -/
def ofJson : Json → Reading OperatorRef
  | .string s => .ok (name s)
  | .number (.whole n _ _) =>
    if 0 ≤ n ∧ n < 256 then .ok (code n.toNat) else .error (.noForm "OperatorRef")
  | _ => .error (.noForm "OperatorRef")

/-- The operator that is meant (`OperatorRef::resolve`). -/
def resolve : OperatorRef → Except Fault Operator
  | code n => Operator.ofCode n
  | name s => Operator.ofName s

end OperatorRef

/-- A field description as it is written (`FieldDescriptor`). -/
structure Descriptor where
  name : String
  operator : Option OperatorRef
  column : Option String
  blurry : List String

namespace Descriptor

/-- The parts of a descriptor, as far as they have been read. -/
structure Parts where
  name : Option String := none
  operator : Option OperatorRef := none
  column : Option String := none
  blurry : List String := []

/-- The outline of a descriptor. -/
def outline : Outline where
  name := "FieldDescriptor"
  fields := ["name", "operator", "column", "blurry"]
  isClosed := true

/-- Reads one part. -/
def Parts.set (parts : Parts) (field : String) (v : Json) : Reading Parts := do
  match field with
  | "name" => return { parts with name := some (← v.readString) }
  | "operator" => return { parts with operator := ← v.readOption OperatorRef.ofJson }
  | "column" => return { parts with column := ← v.readOption Json.readString }
  | _ => return { parts with blurry := ← v.readList Json.readString }

/-- A descriptor. -/
def ofJson (v : Json) : Reading Descriptor := do
  let (parts, origin) ← outline.read Parts.set {} v
  let name ← outline.required origin "name" parts.name
  outline.noSurplus v
  return ⟨name, parts.operator, parts.column, parts.blurry⟩

/-- The field that a descriptor describes; without an operator it is compared for equality. -/
def toSpec (d : Descriptor) : Except Fault FieldSpec := do
  let operator ← match d.operator with
    | some ref => ref.resolve
    | none => .ok .equal
  let spec : FieldSpec := { name := d.name, operator := operator, column := d.column }
  return spec.blurry d.blurry

end Descriptor

namespace Schema

/-- The fault of a schema that is no list of descriptors. -/
def unreadable (m : Json.Mismatch) : Fault :=
  (Fault.reflection s!"invalid criteria schema: {m.message}").causedBy m.message

/-- A schema from a JSON array of descriptors (`CriteriaSchema::from_json`). All of them are read
before any operator is looked up. -/
def ofJson (v : Json) : Except Fault Schema := do
  let descriptors ← (v.readList Descriptor.ofJson).mapError unreadable
  return ⟨← descriptors.mapM Descriptor.toSpec⟩

/-- The number of fields. -/
def size (s : Schema) : Nat := s.fields.length

/-- The schema has no field. -/
def isEmpty (s : Schema) : Bool := s.fields.isEmpty

/-! ## Binding -/

/-- The field of a description among the members of a body. -/
def bindField (members : List (String × Json)) (spec : FieldSpec) : Except Fault Field :=
  let v := (Json.lookup spec.name members).getD .null
  if v.isObject then
    .error ((Fault.reflection s!"field [{spec.name}] holds a nested object").atField spec.name)
  else .ok ⟨spec, .ofJson v⟩

/-- The fields of a body (`JsonCriteria::criteria_fields`); a body that is null has none. -/
def bind (s : Schema) : Json → Except Fault (List Field)
  | .object members => s.fields.mapM (bindField members)
  | .null => .ok []
  | v => .error (.reflection s!"expected a JSON object, found {v.kind}")

end Schema
end RowFilter
