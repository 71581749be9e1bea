import RowFilter.Json

/-!
# TOML values

What a TOML document holds: texts, whole numbers of sixty-four bits, floating-point numbers, truth
values, moments, lists and tables. A table keeps its entries in the order in which the document
introduces them.

The readers of structures are those of JSON, to which `toJson` hands a value over. What JSON has no
form for, a moment or a number that is not finite, becomes an object whose one member names its
kind, which no structure of a configuration has room for.

Headline: `toJson_table`: entries keep their names and their order.
-/

namespace RowFilter

/-- A TOML value. -/
inductive Toml where
  | text (s : String)
  | integer (n : Int64)
  | real (x : Binary64)
  | bool (b : Bool)
  /-- A day, a time of day or both, as it is written. -/
  | moment (s : String)
  | array (items : List Toml)
  | table (entries : List (String × Toml))
  deriving Inhabited

namespace Toml

/-- A floating-point number as JSON. -/
def realJson (x : Binary64) : Json :=
  if h : x.isFinite = true then .number (.real x h) else .object [("float", .null)]

mutual

/-- A value as JSON. -/
def toJson : Toml → Json
  | text s => .string s
  | integer n => Json.ofInt64 n
  | real x => realJson x
  | bool b => .bool b
  | moment s => .object [("datetime", .string s)]
  | array items => .array (itemsJson items)
  | table entries => .object (entriesJson entries)

/-- Items as JSON. -/
def itemsJson : List Toml → List Json
  | [] => []
  | t :: ts => t.toJson :: itemsJson ts

/-- Entries as JSON. -/
def entriesJson : List (String × Toml) → List (String × Json)
  | [] => []
  | (name, t) :: ts => (name, t.toJson) :: entriesJson ts

end

/-- Entries keep their names and their order. -/
theorem toJson_table (entries : List (String × Toml)) :
    (table entries).toJson = .object (entries.map fun e => (e.1, e.2.toJson)) := by
  have h : entriesJson entries = entries.map fun e => (e.1, e.2.toJson) := by
    induction entries with
    | nil => rfl
    | cons e es ih => simp [entriesJson, ih]
  rw [toJson, h]

end Toml
end RowFilter
