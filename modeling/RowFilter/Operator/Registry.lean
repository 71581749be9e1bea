import RowFilter.Operator

/-!
# Operator registries

A registry holds the operators that clients may use, each once and with its rule, in the order in
which they were first named. Whatever is missing from it is refused.

Headline: `rule_isOk_iff`: an operator has a rule exactly when it is in use.
-/

namespace RowFilter

/-- The operators in use with their rules (`OperatorRegistry`). -/
structure Registry where
  rules : List Rule
  deriving DecidableEq

namespace Registry

/-- The rules with one more, unless its operator is already there. -/
def add (rules : List Rule) (r : Rule) : List Rule :=
  if rules.any (·.operator = r.operator) then rules else rules ++ [r]

/-- The registry of the given operators (`OperatorRegistry::restricted`). -/
def restricted (operators : List Operator) : Registry :=
  ⟨(operators.map Operator.rule).foldl add []⟩

/-- The registry of every operator (`OperatorRegistry::standard`). -/
def standard : Registry := ⟨Operator.all.map Operator.rule⟩

/-- The registry without one operator (`OperatorRegistry::without`). -/
def without (r : Registry) (op : Operator) : Registry :=
  ⟨r.rules.filter (·.operator ≠ op)⟩

/-- The operators in use, in order. -/
def operators (r : Registry) : List Operator := r.rules.map (·.operator)

/-- How many operators are in use. -/
def size (r : Registry) : Nat := r.rules.length

/-- No operator is in use. -/
def isEmpty (r : Registry) : Bool := r.rules.isEmpty

/-- The operator is in use. -/
def contains (r : Registry) (op : Operator) : Bool := r.rules.any (·.operator = op)

/-- The rule of an operator in use (`OperatorRegistry::rule`). -/
def rule (r : Registry) (op : Operator) : Except Fault Rule :=
  match r.rules.find? (·.operator = op) with
  | some rule => .ok rule
  | none => .error (.unsupportedOperator op.name)

/-- The same operators with the same rules, in whatever order. -/
def agrees (r s : Registry) : Bool :=
  r.size == s.size && r.rules.all fun rule => s.rules.contains rule

/-- An operator has a rule exactly when it is in use. -/
theorem rule_isOk_iff (r : Registry) (op : Operator) :
    (r.rule op).isOk = r.contains op := by
  simp only [rule, contains]
  cases h : r.rules.find? (·.operator = op) with
  | some rule =>
    have := List.find?_some h
    exact (List.any_eq_true.mpr ⟨rule, List.mem_of_find?_eq_some h, this⟩).symm
  | none =>
    simp only [List.find?_eq_none] at h
    simp only [Except.isOk, Except.toBool]
    exact (List.any_eq_false.mpr h).symm

end Registry
end RowFilter
