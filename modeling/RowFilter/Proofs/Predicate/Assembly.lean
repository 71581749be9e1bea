import RowFilter.Proofs.Predicate.Truth

/-!
# What assembling makes of its two sides

What a caller asks for meets what the caller may see in one place only. A side is dropped there if
it always holds, and both are if one of them never holds; otherwise they stand side by side, as they
were given. Whichever way is taken, the outcome is the conjunction of the two.

Headlines:
* `isAlwaysTrue_any`: a minimal disjunction always holds exactly when some member does;
* `assemble_eq_always_iff`: nothing at all is left to restrict only where neither side restricts;
* **`assemble_conjoins`**: the outcome has the truth of the conjunction, and takes neither side
  apart.
-/

namespace RowFilter.Predicate

/-! ## Groups that always hold -/

section Constants

variable {ps : List Predicate}

@[simp] theorem isAlwaysTrue_comparison (c : Comparison) :
    (comparison c).isAlwaysTrue = false := by
  rw [isAlwaysTrue]

@[simp] theorem isAlwaysTrue_always : always.isAlwaysTrue = true := rfl

theorem isAlwaysTrue_or : (or ps).isAlwaysTrue = ps.any isAlwaysTrue := by
  rw [isAlwaysTrue, anyAlwaysTrue_eq]

theorem isAlwaysTrue_group_or : (group or ps).isAlwaysTrue = ps.any isAlwaysTrue := by
  unfold group
  split
  · simp
  · exact isAlwaysTrue_or

/-- **A minimal disjunction** always holds exactly when some member does. -/
theorem isAlwaysTrue_any : (any ps).isAlwaysTrue = ps.any isAlwaysTrue := by
  unfold any
  cases hsome : ps.any isAlwaysTrue with
  | true => rfl
  | false =>
    -- None of the members always holds, so none of those that are left does.
    rw [if_neg Bool.false_ne_true, isAlwaysTrue_group_or, List.any_eq_false]
    intro p hp
    exact List.any_eq_false.mp hsome p (List.mem_filter.mp hp).1

end Constants

/-! ## Assembling -/

section Assembling

variable (asked allowed : Predicate)

/-- **Nothing at all is left** exactly when nothing is asked for and everything is allowed. -/
theorem assemble_eq_always_iff :
    assemble asked allowed = always ↔ asked = always ∧ allowed.isAlwaysTrue = true := by
  unfold assemble
  cases hallowed : allowed.isAlwaysTrue with
  | true => simp
  | false =>
    have hne : allowed ≠ always := by
      rintro rfl
      rw [isAlwaysTrue_always] at hallowed
      cases hallowed
    simp only [Bool.false_eq_true, if_false, and_false, iff_false]
    split
    · exact hne
    · split <;> simp [always, never]

/-- **Assembling is exactly conjunction**: the outcome has the truth of both sides together, so a
row that passes it passes what is allowed. It is one side, where the other always holds, or nothing
at all, where one of them never holds, or both sides in order, and neither is taken apart. -/
theorem assemble_conjoins :
    (∀ meaning, (assemble asked allowed).truth meaning =
      (asked.truth meaning).and (allowed.truth meaning)) ∧
    (∀ meaning, (assemble asked allowed).truth meaning = .true →
      asked.truth meaning = .true ∧ allowed.truth meaning = .true) ∧
    (allowed.isAlwaysTrue = true ∧ assemble asked allowed = asked ∨
      asked.isAlwaysTrue = true ∧ assemble asked allowed = allowed ∨
      (asked.isAlwaysFalse = true ∨ allowed.isAlwaysFalse = true) ∧
        assemble asked allowed = never ∨
      assemble asked allowed = and [asked, allowed]) := by
  have hconj : ∀ meaning, (assemble asked allowed).truth meaning =
      (asked.truth meaning).and (allowed.truth meaning) := fun _ => truth_assemble asked allowed
  refine ⟨hconj, fun meaning h => ?_, ?_⟩
  · rw [hconj] at h
    exact Truth.and_eq_true_iff.mp h
  · unfold assemble
    split
    · rename_i hallowed
      exact .inl ⟨hallowed, rfl⟩
    · split
      · rename_i hasked
        exact .inr (.inl ⟨hasked, rfl⟩)
      · split
        · rename_i hnever
          exact .inr (.inr (.inl ⟨(Bool.or_eq_true _ _).mp hnever, rfl⟩))
        · exact .inr (.inr (.inr rfl))

end Assembling

end RowFilter.Predicate
