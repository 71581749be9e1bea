import RowFilter.Value

/-!
# Agreement of values

Two values agree when they have the same shape and hold the same data, floating-point numbers
being compared as numbers. `plainZeros` puts zero for negative zero throughout, and `isOrdered`
says that no NaN occurs.
-/

namespace RowFilter

namespace Binary64

/-- Zero for either zero, and every other number itself. -/
def plainZero (x : Binary64) : Binary64 := if x.isZero then zero else x

end Binary64

/-- Zero for negative zero in a number. -/
def Number.plainZeros : Number → Number
  | .whole n low high => .whole n low high
  | .real x finite => if x.isZero then .real .zero (by decide) else .real x finite

mutual

/-- Zero for negative zero throughout a value. -/
def Json.plainZeros : Json → Json
  | .number n => .number n.plainZeros
  | .array items => .array (Json.plainZerosItems items)
  | .object members => .object (Json.plainZerosMembers members)
  | v => v

/-- Zero for negative zero throughout a list of values. -/
def Json.plainZerosItems : List Json → List Json
  | [] => []
  | v :: vs => v.plainZeros :: Json.plainZerosItems vs

/-- Zero for negative zero throughout a list of members. -/
def Json.plainZerosMembers : List (String × Json) → List (String × Json)
  | [] => []
  | (k, v) :: ms => (k, v.plainZeros) :: Json.plainZerosMembers ms

end

namespace Value

mutual

/-- Zero for negative zero throughout a value. -/
def plainZeros : Value → Value
  | float x => float x.plainZero
  | json j => json j.plainZeros
  | list items => list (plainZerosItems items)
  | v => v

/-- Zero for negative zero throughout a list of values. -/
def plainZerosItems : List Value → List Value
  | [] => []
  | v :: vs => v.plainZeros :: plainZerosItems vs

end

mutual

/-- No NaN occurs in the value. -/
def isOrdered : Value → Bool
  | float x => !x.isNaN
  | list items => isOrderedItems items
  | _ => true

/-- No NaN occurs in a list of values. -/
def isOrderedItems : List Value → Bool
  | [] => true
  | v :: vs => v.isOrdered && isOrderedItems vs

end

/-- Equality of values, floating-point numbers being compared as numbers. -/
def agrees (a b : Value) : Bool := a.isOrdered && decide (a.plainZeros = b.plainZeros)

end Value
end RowFilter
