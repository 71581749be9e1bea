import RowFilter.Predicate
import RowFilter.Value.Agreement

/-!
# Agreement of predicates

Two predicates agree when they are the same tree with the same columns and operators and with
operands that agree as values do: numbers as numbers, and a NaN with nothing.
-/

namespace RowFilter

/-- Zero for negative zero throughout an operand. -/
def Operand.plainZeros : Operand → Operand
  | none => none
  | single v => single v.plainZeros
  | range low high => range low.plainZeros high.plainZeros
  | list items => list (items.map Value.plainZeros)

/-- Zero for negative zero in a comparison. -/
def Comparison.plainZeros (c : Comparison) : Comparison :=
  { c with operand := c.operand.plainZeros }

namespace Predicate

mutual

/-- Zero for negative zero throughout a predicate. -/
def plainZeros : Predicate → Predicate
  | comparison c => comparison c.plainZeros
  | and ps => and (plainZerosItems ps)
  | or ps => or (plainZerosItems ps)
  | not p => not p.plainZeros

/-- Zero for negative zero throughout predicates. -/
def plainZerosItems : List Predicate → List Predicate
  | [] => []
  | p :: ps => p.plainZeros :: plainZerosItems ps

end

/-- No NaN occurs in the predicate. -/
def isOrdered (p : Predicate) : Bool :=
  p.comparisons.all fun c => c.operand.values.all Value.isOrdered

/-- Equality of predicates, floating-point numbers being compared as numbers. -/
def agrees (p q : Predicate) : Bool := p.isOrdered && decide (p.plainZeros = q.plainZeros)

end Predicate
end RowFilter
