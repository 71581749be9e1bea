import RowFilter.Json.Decode
import RowFilter.Predicate
import RowFilter.Value.JsonForm

/-!
# Stored predicates

The JSON form of a predicate: every node is an object of one member that names its kind. Operators
are written by their names, and read by their second names too; a comparison is also read from an
array of its three parts.
-/

namespace RowFilter

open Json (Reading Outline)

/-! ## Writing -/

namespace Operand

/-- The JSON form of an operand. -/
def toJson : Operand → Json
  | none => .string "none"
  | single v => .object [("single", v.toJson)]
  | range low high => .object [("range", .array [low.toJson, high.toJson])]
  | list items => .object [("list", .array (items.map Value.toJson))]

end Operand

/-- The JSON form of a comparison. -/
def Comparison.toJson (c : Comparison) : Json :=
  .object [("column", .string c.column), ("operator", .string c.operator.name),
    ("operand", c.operand.toJson)]

namespace Predicate

mutual

/-- The JSON form of a predicate. -/
def toJson : Predicate → Json
  | comparison c => .object [("comparison", c.toJson)]
  | and ps => .object [("and", .array (toJsonItems ps))]
  | or ps => .object [("or", .array (toJsonItems ps))]
  | not p => .object [("not", p.toJson)]

/-- The JSON forms of predicates. -/
def toJsonItems : List Predicate → List Json
  | [] => []
  | p :: ps => p.toJson :: toJsonItems ps

end

end Predicate

/-! ## Reading -/

/-- An operator by one of its names. -/
def Operator.ofJson (v : Json) : Reading Operator := v.readName Operator.names Operator.all

namespace Operand

/-- The two bounds of a range. -/
def readRange : Json → Reading Operand
  | .array [] => .error (Json.null.wrong "tuple variant Operand::Range")
  | .array [_] => .error (.wrongLength 1 "tuple variant Operand::Range with 2 elements")
  | .array [low, high] => .ok (range (.ofStored low) (.ofStored high))
  | .array items => .error (.wrongLength items.length "fewer elements in array")
  | v => .error (v.wrong "tuple variant")

/-- An operand. -/
def ofJson (v : Json) : Reading Operand := do
  match ← v.readChoice with
  | ("none", Option.none) | ("none", some .null) => return none
  | ("none", some payload) => throw (payload.wrong "unit")
  | ("single", some payload) => return single (.ofStored payload)
  | ("range", some payload) => readRange payload
  | ("list", some payload) => return list (← payload.readList fun item => .ok (.ofStored item))
  | ("range", Option.none) => throw (.wrongType "unit variant" "tuple variant")
  | ("single", Option.none) | ("list", Option.none) =>
    throw (.wrongType "unit variant" "newtype variant")
  | (name, _) => throw (.unknownVariant name ["none", "single", "range", "list"])

end Operand

namespace Comparison

/-- The parts of a comparison, as far as they have been read. -/
structure Parts where
  column : Option String := none
  operator : Option Operator := none
  operand : Option Operand := none

/-- The outline of a comparison. -/
def outline : Outline := { name := "Comparison", fields := ["column", "operator", "operand"] }

/-- Reads one part. -/
def Parts.set (parts : Parts) (field : String) (v : Json) : Reading Parts := do
  match field with
  | "column" => return { parts with column := some (← v.readString) }
  | "operator" => return { parts with operator := some (← Operator.ofJson v) }
  | _ => return { parts with operand := some (← Operand.ofJson v) }

/-- A comparison. -/
def ofJson (v : Json) : Reading Comparison := do
  let (parts, origin) ← outline.read Parts.set {} v
  let column ← outline.required origin "column" parts.column
  let operator ← outline.required origin "operator" parts.operator
  let operand ← outline.required origin "operand" parts.operand
  outline.noSurplus v
  return { column, operator, operand }

end Comparison

namespace Predicate

/-- The kinds of nodes. -/
def kinds : List String := ["comparison", "and", "or", "not"]

/-- What is wrong with a node of which only the kind is given. -/
def bareKind (kind : String) : Json.Mismatch :=
  if kinds.contains kind then .wrongType "unit variant" "newtype variant"
  else .unknownVariant kind kinds

mutual

/-- A predicate. -/
def ofJson : Json → Reading Predicate
  | .object [("comparison", v)] => (Comparison.ofJson v).map comparison
  | .object [("and", .array items)] => (ofJsonItems items).map and
  | .object [("or", .array items)] => (ofJsonItems items).map or
  | .object [("not", v)] => (ofJson v).map not
  | .object [("and", v)] => .error (v.wrong "a sequence")
  | .object [("or", v)] => .error (v.wrong "a sequence")
  | .object [(kind, _)] => .error (.unknownVariant kind kinds)
  | .object _ => .error (.wrongValue "map" "map with a single key")
  | .string kind => .error (bareKind kind)
  | v => .error (v.wrong "string or map")

/-- The members of a group; the first that cannot be read decides. -/
def ofJsonItems : List Json → Reading (List Predicate)
  | [] => .ok []
  | v :: vs => do
    let p ← ofJson v
    let ps ← ofJsonItems vs
    return p :: ps

end

end Predicate
end RowFilter
