import RowFilter.Json.Decode
import RowFilter.Value
import RowFilter.Binary64.Rounding

/-!
# Values and JSON

A JSON value becomes an operand in two ways. Bound to a field (`ofJson`), an array is a list.
Inside a stored predicate (`ofStored`), an array stays JSON as it is. A whole number that
sixty-four signed bits cannot hold becomes a floating-point number either way. `toJson` writes a
value without saying which kind it is.

Headline: `ofNumber_ne_json`: a number does not stay JSON.
-/

namespace RowFilter.Value

/-- A JSON number as a value. -/
def ofNumber : Number → Value
  | .whole n _ _ =>
    if n < 0x8000000000000000 then int (Int64.ofInt n)
    else float (.ofDecimal .double false n.toNat 0)
  | .real x _ => float x

mutual

/-- The value bound to a field. -/
def ofJson : Json → Value
  | .null => null
  | .bool b => bool b
  | .number n => ofNumber n
  | .string s => text s
  | .array items => list (ofJsonItems items)
  | .object members => json (.object members)

/-- The values bound to a field that holds a list. -/
def ofJsonItems : List Json → List Value
  | [] => []
  | v :: vs => ofJson v :: ofJsonItems vs

end

/-- The value in a stored predicate. -/
def ofStored : Json → Value
  | .null => null
  | .bool b => bool b
  | .number n => ofNumber n
  | .string s => text s
  | v => json v

mutual

/-- The value as JSON, its kind left unsaid. -/
def toJson : Value → Json
  | null => .null
  | bool b => .bool b
  | int n => .ofInt64 n
  | float x => .ofBinary64 x
  | text s => .string s
  | json j => j
  | list items => .array (toJsonItems items)

/-- The values of a list as JSON. -/
def toJsonItems : List Value → List Json
  | [] => []
  | v :: vs => v.toJson :: toJsonItems vs

end

/-- A number does not stay JSON. -/
theorem ofNumber_ne_json (n : Number) (j : Json) : ofNumber n ≠ json j := by
  intro h
  cases n with
  | whole n low high =>
    rw [ofNumber] at h
    split at h <;> cases h
  | real x finite => cases h

end RowFilter.Value
