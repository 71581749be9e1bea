import RowFilter.Calendar
import RowFilter.Uuid
import RowFilter.Value.JsonForm

/-!
# Typed values

The values that the fields of a request type hold before they become operands. A whole number
becomes an integer when sixty-four signed bits hold it and a text otherwise; what is absent becomes
null; identifiers and times become texts.
-/

namespace RowFilter

/-- A value as a typed field holds it. -/
inductive Typed where
  /-- A whole number of any width. -/
  | integer (n : Int)
  | float (x : Binary64)
  | bool (b : Bool)
  | text (s : String)
  | absent
  | present (t : Typed)
  | list (items : List Typed)
  | uuid (u : Uuid)
  | date (d : Calendar.Date)
  | moment (m : Calendar.Moment)
  | universal (m : Calendar.Moment)
  | json (j : Json)
  | value (v : Value)

namespace Typed

/-- A whole number as an operand (`impl_wide_int_value`). -/
def ofInteger (n : Int) : Value :=
  if -0x8000000000000000 ≤ n ∧ n < 0x8000000000000000 then
    .int (Int64.ofInt n)
  else
    .text (toString n)

mutual

/-- The operand of a typed value (`ToFilterValue::to_filter_value`). -/
def toValue : Typed → Value
  | integer n => ofInteger n
  | float x => .float x
  | bool b => .bool b
  | text s => .text s
  | absent => .null
  | present t => t.toValue
  | list items => .list (toValues items)
  | uuid u => .text u.text
  | date d => .text d.text
  | moment m => .text m.text
  | universal m => .text m.universalText
  | json j => .ofJson j
  | value v => v

/-- The operands of typed values. -/
def toValues : List Typed → List Value
  | [] => []
  | t :: ts => t.toValue :: toValues ts

end

end Typed
end RowFilter
