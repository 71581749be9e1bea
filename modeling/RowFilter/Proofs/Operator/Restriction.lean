import RowFilter.Operator.Registry
import RowFilter.Proofs.Distinct

/-!
# Which operators a registry is left with

Every registry begins with all operators or with those it is restricted to, and loses some of them
one after another. A `History` records these steps, and since nothing else makes a registry, the
histories stand for all registries there are.

Headlines:
* `rules_registry`: the operators given and not removed, each once, in the order in which they were
  first given, and each with its standard rule;
* `rule_registry`: an operator among them is answered with its standard rule, and any other is
  refused.
-/

namespace RowFilter.Registry

/-! ## Histories -/

/-- How a registry came about. -/
structure History where
  /-- The operators that it was restricted to, if it was. -/
  restriction : Option (List Operator) := none
  /-- The operators taken out of it since, in turn. -/
  removed : List Operator := []

namespace History

/-- The registry with this history. -/
def registry (h : History) : Registry :=
  h.removed.foldl Registry.without (h.restriction.elim .standard .restricted)

/-- The operators given and not removed, in the order in which they were first given. -/
def operators (h : History) : List Operator :=
  (h.restriction.getD Operator.all).eraseDups.filter (· ∉ h.removed)

end History

/-! ## Rules -/

@[simp] theorem operator_rule (op : Operator) : op.rule.operator = op := rfl

/-- An operator is among standard rules exactly when it is among their operators. -/
theorem any_map_rule (ops : List Operator) (op : Operator) :
    (ops.map Operator.rule).any (·.operator = op) = decide (op ∈ ops) := by
  induction ops with
  | nil => rfl
  | cons o ops ih =>
    rw [List.map_cons, List.any_cons, ih, operator_rule]
    simp [eq_comm]

/-- One more standard rule goes behind the others, unless it is there already. -/
theorem add_map_rule (ops : List Operator) (op : Operator) :
    add (ops.map Operator.rule) op.rule =
      (if op ∈ ops then ops else ops ++ [op]).map Operator.rule := by
  unfold add
  rw [operator_rule, any_map_rule]
  by_cases hop : op ∈ ops
  · simp [hop]
  · simp [hop]

/-- **Restricting** gathers each operator where it is first given. -/
theorem rules_restricted (given : List Operator) :
    (restricted given).rules = given.eraseDups.map Operator.rule := by
  show (given.map Operator.rule).foldl add [] = given.eraseDups.map Operator.rule
  -- Operators are gathered from the left, so the last one decides a step.
  induction given using List.reverseRecOn with
  | nil => rfl
  | append_singleton given op ih =>
    rw [List.map_append, List.foldl_append, ih, List.map_singleton, List.foldl_cons, List.foldl_nil,
      add_map_rule, eraseDups_concat]
    simp only [List.mem_eraseDups]

/-- Removing operators one after another removes all of them. -/
theorem rules_foldl_without (r : Registry) (removed : List Operator) :
    (removed.foldl without r).rules = r.rules.filter (·.operator ∉ removed) := by
  induction removed generalizing r with
  | nil => exact (List.filter_eq_self.mpr fun _ _ => by simp).symm
  | cons op removed ih =>
    rw [List.foldl_cons, ih, without, List.filter_filter]
    refine List.filter_congr fun rule _ => ?_
    simp [Bool.and_comm]

namespace History

/-- **The rules of a registry** are those of the operators given and not removed. -/
theorem rules_registry (h : History) : h.registry.rules = h.operators.map Operator.rule := by
  have hstart : (h.restriction.elim standard restricted).rules =
      (h.restriction.getD Operator.all).eraseDups.map Operator.rule := by
    cases h.restriction with
    | none => rfl
    | some given => exact rules_restricted given
  rw [registry, rules_foldl_without, hstart, List.filter_map, operators]
  rfl

/-- An operator is in use exactly when it was given and not removed. -/
theorem contains_registry (h : History) (op : Operator) :
    h.registry.contains op = decide (op ∈ h.operators) := by
  rw [contains, rules_registry, any_map_rule]

/-- **What an operator is answered with**: its standard rule if it is in use, else a refusal. -/
theorem rule_registry (h : History) (op : Operator) :
    h.registry.rule op =
      if h.registry.contains op then .ok op.rule else .error (.unsupportedOperator op.name) := by
  have hfind : h.registry.rules.find? (·.operator = op) =
      if h.registry.contains op then some op.rule else none := by
    rw [contains_registry, rules_registry]
    induction h.operators with
    | nil => rfl
    | cons o ops ih =>
      rw [List.map_cons, List.find?_cons]
      by_cases ho : o = op
      · simp [ho]
      · simp [ho, ih, Ne.symm ho]
  rw [rule, hfind]
  cases h.registry.contains op <;> rfl

theorem rule_registry_eq_ok_iff {h : History} {op : Operator} {rule : Rule} :
    h.registry.rule op = .ok rule ↔ h.registry.contains op = true ∧ rule = op.rule := by
  rw [rule_registry]
  cases h.registry.contains op <;> simp [eq_comm]

end History
end RowFilter.Registry
