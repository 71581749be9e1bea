import RowFilter.Criteria.Compile

/-!
# Operands that suit their operators

`Takes` lists the operands that each operator is meant for. A predicate is suited when each of its
comparisons has such an operand. Putting predicates together makes no new comparisons, so whatever
is put together from suited predicates is suited.

Headlines:
* `mem_comparisons_any` and `mem_comparisons_assemble`: the comparisons of what is put together are
  those of its parts;
* `IsSuited.any` and `IsSuited.assemble`: so it is suited when its parts are.
-/

namespace RowFilter

/-! ## Operands -/

/-- The operator is meant for the operand. -/
inductive Operator.Takes : Operator → Operand → Prop where
  | isNull : Takes .isNull .none
  | isNotNull : Takes .isNotNull .none
  | between (low high : Value) : Takes .between (.range low high)
  | isIn (v : Value) (vs : List Value) : Takes .isIn (.list (v :: vs))
  | notIn (v : Value) (vs : List Value) : Takes .notIn (.list (v :: vs))
  /-- All other operators take one value, which is neither null nor a list. -/
  | single {op : Operator} {v : Value} (hop : op.arity = .one) (hnull : v ≠ .null)
      (hlist : ∀ items, v ≠ .list items) : Takes op (.single v)

namespace Operator

variable {op : Operator}

theorem takes_none (h : op.arity = .none) : op.Takes .none := by
  cases op with
  | isNull => exact .isNull
  | isNotNull => exact .isNotNull
  | _ => exact absurd h (by decide)

theorem takes_range (h : op.arity = .two) (low high : Value) : op.Takes (.range low high) := by
  cases op with
  | between => exact .between low high
  | _ => exact absurd h (by decide)

theorem takes_list (h : op.arity = .many) {items : List Value} (hne : items ≠ []) :
    op.Takes (.list items) := by
  obtain ⟨v, vs, rfl⟩ := List.exists_cons_of_ne_nil hne
  cases op with
  | isIn => exact .isIn v vs
  | notIn => exact .notIn v vs
  | _ => exact absurd h (by decide)

end Operator

/-! ## Predicates -/

namespace Predicate

/-- Every comparison has an operand that its operator takes. -/
def IsSuited (p : Predicate) : Prop := ∀ c ∈ p.comparisons, c.operator.Takes c.operand

variable {ps : List Predicate} {p q : Predicate} {c : Comparison}

theorem mem_comparisons_and : c ∈ (and ps).comparisons ↔ ∃ p ∈ ps, c ∈ p.comparisons := by
  rw [comparisons, comparisonsOfAll_eq, List.mem_flatMap]

theorem mem_comparisons_or : c ∈ (or ps).comparisons ↔ ∃ p ∈ ps, c ∈ p.comparisons := by
  rw [comparisons, comparisonsOfAll_eq, List.mem_flatMap]

theorem mem_comparisons_group_or :
    c ∈ (group or ps).comparisons ↔ ∃ p ∈ ps, c ∈ p.comparisons := by
  unfold group
  split
  · simp
  · exact mem_comparisons_or

/-- A minimal disjunction has no comparisons but those of its members. -/
theorem mem_comparisons_any (h : c ∈ (any ps).comparisons) : ∃ p ∈ ps, c ∈ p.comparisons := by
  unfold any at h
  split at h
  · exact absurd h (by simp [always, comparisons, comparisonsOfAll])
  · obtain ⟨p, hp, hc⟩ := mem_comparisons_group_or.mp h
    exact ⟨p, (List.mem_filter.mp hp).1, hc⟩

/-- Assembling makes no comparison. -/
theorem mem_comparisons_assemble (h : c ∈ (assemble p q).comparisons) :
    c ∈ p.comparisons ∨ c ∈ q.comparisons := by
  rcases assemble_cases p q with he | he | he | he <;> rw [he] at h
  · exact .inl h
  · exact .inr h
  · exact absurd h (by simp [never, comparisons, comparisonsOfAll])
  · simpa using mem_comparisons_and.mp h

theorem isSuited_always : always.IsSuited := by
  simp [IsSuited, always, comparisons, comparisonsOfAll]

theorem isSuited_comparison (h : c.operator.Takes c.operand) : (comparison c).IsSuited := by
  intro c' hc
  rw [comparisons, List.mem_singleton] at hc
  exact hc ▸ h

theorem IsSuited.any (h : ∀ p ∈ ps, p.IsSuited) : (Predicate.any ps).IsSuited := by
  intro c hc
  obtain ⟨p, hp, hc⟩ := mem_comparisons_any hc
  exact h p hp c hc

theorem IsSuited.assemble (hp : p.IsSuited) (hq : q.IsSuited) :
    (RowFilter.assemble p q).IsSuited := by
  intro c hc
  rcases mem_comparisons_assemble hc with hc | hc
  · exact hp c hc
  · exact hq c hc

end Predicate
end RowFilter
