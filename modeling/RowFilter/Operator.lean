import RowFilter.Fault
import RowFilter.Text.Blank

/-!
# Comparison operators

The fourteen operators, each with a stable number, a canonical name and a rule: how many operands
it takes, whether it is still applied to an empty value, and where the wildcards of a pattern go.

Headlines:
* `ofCode_code`: the number leads back to the operator;
* `acceptsEmpty_iff`: only the null tests are applied to an empty value.
-/

namespace RowFilter

/-- A comparison operator (`OperatorKind`). -/
inductive Operator where
  | equal
  | notEqual
  | greaterThan
  | lessThan
  | greaterOrEqual
  | lessOrEqual
  | between
  /-- The text begins with the value. -/
  | leftLike
  /-- The text contains the value. -/
  | innerLike
  /-- The text ends with the value. -/
  | rightLike
  | isIn
  | notIn
  | isNull
  | isNotNull
  deriving DecidableEq

/-- How many operands an operator takes. -/
inductive Arity where
  | none
  | one
  /-- An ordered pair. -/
  | two
  /-- A sequence that is not empty. -/
  | many
  deriving DecidableEq

/-- Where the wildcards of a pattern go. -/
inductive LikePattern where
  | startsWith
  | contains
  | endsWith
  deriving DecidableEq

/-- What is asked of the operand of an operator (`OperatorRule`). -/
structure Rule where
  operator : Operator
  arity : Arity
  /-- The operator is applied even when the value is empty. -/
  acceptsEmpty : Bool
  like : Option LikePattern
  deriving DecidableEq

/-! ## Patterns -/

namespace LikePattern

/-- An escaped text with the wildcards of the pattern around it. -/
def wrap (escaped : String) : LikePattern → String
  | startsWith => escaped ++ "%"
  | contains => "%" ++ escaped ++ "%"
  | endsWith => "%" ++ escaped

/-- The name of the pattern. -/
def name : LikePattern → String
  | startsWith => "StartsWith"
  | contains => "Contains"
  | endsWith => "EndsWith"

end LikePattern

/-- The name of the arity. -/
def Arity.name : Arity → String
  | none => "None"
  | one => "One"
  | two => "Two"
  | many => "Many"

namespace Operator

/-! ## Numbers and names -/

/-- Every operator, by ascending number. -/
def all : List Operator :=
  [equal, notEqual, greaterThan, lessThan, greaterOrEqual, lessOrEqual, between, leftLike,
   innerLike, rightLike, isIn, notIn, isNull, isNotNull]

/-- The number of an operator (`OperatorKind::code`). -/
def code : Operator → Nat
  | equal => 1
  | notEqual => 2
  | greaterThan => 3
  | lessThan => 4
  | greaterOrEqual => 5
  | lessOrEqual => 6
  | between => 7
  | leftLike => 8
  | innerLike => 9
  | rightLike => 10
  | isIn => 11
  | notIn => 12
  | isNull => 13
  | isNotNull => 14

/-- The canonical name of an operator. -/
def name : Operator → String
  | equal => "EQUAL"
  | notEqual => "NOT_EQUAL"
  | greaterThan => "GREATER_THAN"
  | lessThan => "LESS_THAN"
  | greaterOrEqual => "GREATER_OR_EQUAL"
  | lessOrEqual => "LESS_OR_EQUAL"
  | between => "BETWEEN"
  | leftLike => "LEFT_LIKE"
  | innerLike => "INNER_LIKE"
  | rightLike => "RIGHT_LIKE"
  | isIn => "IN"
  | notIn => "NOT_IN"
  | isNull => "IS_NULL"
  | isNotNull => "IS_NOT_NULL"

/-- A second name that two of the operators have. -/
def alias? : Operator → Option String
  | greaterOrEqual => some "GREATER_THAN_OR_EQUAL"
  | lessOrEqual => some "LESS_THAN_OR_EQUAL"
  | _ => none

/-- Every name an operator goes by, the canonical one first. -/
def names (op : Operator) : List String := op.name :: op.alias?.toList

/-- The operator as a reader would write it. -/
def description : Operator → String
  | equal => "="
  | notEqual => "!="
  | greaterThan => ">"
  | lessThan => "<"
  | greaterOrEqual => ">="
  | lessOrEqual => "<="
  | between => "BETWEEN"
  | leftLike => "LIKE 's%'"
  | innerLike => "LIKE '%s%'"
  | rightLike => "LIKE '%s'"
  | isIn => "IN"
  | notIn => "NOT IN"
  | isNull => "IS NULL"
  | isNotNull => "IS NOT NULL"

/-- The operator of a number (`OperatorKind::from_code`). -/
def ofCode (code : Nat) : Except Fault Operator :=
  match all.find? (·.code == code) with
  | some op => .ok op
  | none => .error (.unsupportedOperator (toString code))

/-- The operator that goes by exactly this name. -/
def ofName? (name : String) : Option Operator := all.find? (·.names.contains name)

/-- The operator of a name in any case, blanks around it apart (`OperatorKind::from_str`). -/
def ofName (text : String) : Except Fault Operator :=
  match ofName? (String.ofList ((Text.trim text).toList.map Char.toUpper)) with
  | some op => .ok op
  | none => .error (.unsupportedOperator text)

/-- The number leads back to the operator. -/
theorem ofCode_code (op : Operator) : ofCode op.code = .ok op := by
  cases op <;> rfl

/-! ## Rules -/

/-- How many operands the operator takes. -/
def arity : Operator → Arity
  | between => .two
  | isIn | notIn => .many
  | isNull | isNotNull => .none
  | _ => .one

/-- Where the wildcards go, for the pattern operators. -/
def like : Operator → Option LikePattern
  | leftLike => some .startsWith
  | innerLike => some .contains
  | rightLike => some .endsWith
  | _ => none

/-- The standard rule of an operator (`STANDARD_RULES`): what takes no operand is applied to an
empty value too. -/
def rule (op : Operator) : Rule where
  operator := op
  arity := op.arity
  acceptsEmpty := op.arity == .none
  like := op.like

/-- Only the null tests are applied to an empty value. -/
theorem acceptsEmpty_iff (op : Operator) :
    op.rule.acceptsEmpty = true ↔ op = isNull ∨ op = isNotNull := by
  cases op <;> decide

end Operator
end RowFilter
