import RowFilter.Json.Printer

/-!
# Operand values

The values that criteria fields hold and comparisons compare with. `decidableEq` tells apart any two
data; `Value.agrees`, of `Value.Agreement`, is equality as numbers go, under which the two zeros
agree and a NaN does not even agree with itself.
-/

namespace RowFilter

/-- A value that a comparison can use (`FilterValue`). -/
inductive Value where
  | null
  | bool (b : Bool)
  | int (n : Int64)
  | float (x : Binary64)
  | text (s : String)
  | json (j : Json)
  | list (items : List Value)
  deriving Inhabited

/-! ## Equality -/

mutual

/-- Decides equality of values. -/
def Value.decidableEq : (a b : Value) → Decidable (a = b)
  | .null, .null => isTrue rfl
  | .bool a, .bool b => decidable_of_iff (a = b) (by simp)
  | .int a, .int b => decidable_of_iff (a = b) (by simp)
  | .float a, .float b => decidable_of_iff (a = b) (by simp)
  | .text a, .text b => decidable_of_iff (a = b) (by simp)
  | .json a, .json b => decidable_of_iff (a = b) (by simp)
  | .list a, .list b => @decidable_of_iff _ (a = b) (by simp) (Value.decidableEqItems a b)
  | .null, .bool _ | .null, .int _ | .null, .float _ | .null, .text _ | .null, .json _
  | .null, .list _ | .bool _, .null | .bool _, .int _ | .bool _, .float _ | .bool _, .text _
  | .bool _, .json _ | .bool _, .list _ | .int _, .null | .int _, .bool _ | .int _, .float _
  | .int _, .text _ | .int _, .json _ | .int _, .list _ | .float _, .null | .float _, .bool _
  | .float _, .int _ | .float _, .text _ | .float _, .json _ | .float _, .list _
  | .text _, .null | .text _, .bool _ | .text _, .int _ | .text _, .float _ | .text _, .json _
  | .text _, .list _ | .json _, .null | .json _, .bool _ | .json _, .int _ | .json _, .float _
  | .json _, .text _ | .json _, .list _ | .list _, .null | .list _, .bool _ | .list _, .int _
  | .list _, .float _ | .list _, .text _ | .list _, .json _ => isFalse (by simp)

/-- Decides equality of lists of values. -/
def Value.decidableEqItems : (a b : List Value) → Decidable (a = b)
  | [], [] => isTrue rfl
  | [], _ :: _ | _ :: _, [] => isFalse (by simp)
  | a :: as, b :: bs =>
    match Value.decidableEq a b, Value.decidableEqItems as bs with
    | isTrue h, isTrue t => isTrue (by rw [h, t])
    | isFalse h, _ => isFalse (by simp [h])
    | _, isFalse t => isFalse (by simp [t])

end

instance : DecidableEq Value := Value.decidableEq

namespace Value

/-! ## Views -/

/-- The value is null. -/
def isNull : Value → Bool
  | null => true
  | _ => false

/-- The value counts as not given (`FilterValue::is_empty`): null, the empty text or the empty
list. -/
def isEmpty : Value → Bool
  | null => true
  | text s => s == ""
  | list items => items.isEmpty
  | _ => false

/-- The value as a sequence (`FilterValue::as_slice`): the items of a list, else the value alone. -/
def slice : Value → List Value
  | list items => items
  | v => [v]

/-- The text, if the value is one. -/
def text? : Value → Option String
  | text s => some s
  | _ => none

/-! ## Text -/

mutual

/-- The value as messages show it. -/
def shown : Value → String
  | null => "NULL"
  | bool b => if b then "true" else "false"
  | int n => toString n.toInt
  | float x => x.toText
  | text s => "'" ++ s ++ "'"
  | json j => j.text
  | list items => "(" ++ ", ".intercalate (shownItems items) ++ ")"

/-- The items of a list as messages show them. -/
def shownItems : List Value → List String
  | [] => []
  | v :: vs => v.shown :: shownItems vs

end

end Value
end RowFilter
