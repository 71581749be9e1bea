import RowFilter.Proofs.Predicate.Suitability
import RowFilter.Proofs.Sql.Traversal

/-!
# Why a suited predicate may be refused

A predicate whose operands suit their operators can be written in any dialect, unless one of its
columns is no safe name, or a pattern is asked to search for JSON, which has no text. That an
operand does not belong to its operator is never the reason.

Headlines:
* `refused_of_comparisonFragment`: the two reasons, of one comparison;
* `exists_refused_of_render`: and of a predicate.
-/

namespace RowFilter.Sql

/-- Why a comparison whose operand suits its operator cannot be written, and the fault it is. -/
inductive Refused (c : Comparison) : Fault → Prop where
  | column (hc : isSafe c.column = false) : Refused c (unsafeName c.column)
  | pattern (hlike : c.operator.like.isSome = true) {j : Json}
      (hj : c.operand = .single (.json j)) :
      Refused c (.invalidParameter c.column "LIKE needs a text value")

/-- Neither reason is a defect of the program. -/
theorem Refused.code_ne_internal {c : Comparison} {e : Fault} (h : Refused c e) :
    e.code ≠ .internal := by
  cases h <;> exact fun h => nomatch h

variable {d : Dialect}

theorem checkIdentifier_eq_error_iff {column : String} {e : Fault} :
    checkIdentifier column = .error e ↔ isSafe column = false ∧ e = unsafeName column := by
  unfold checkIdentifier
  cases isSafe column <;> simp [eq_comm]

/-- A pattern has a text to search for, unless it is asked for JSON. -/
theorem searchText_refused {column : String} {v : Value} {e : Fault} (hnull : v ≠ .null)
    (hlist : ∀ items, v ≠ .list items) (h : searchText column v = .error e) :
    (∃ j, v = .json j) ∧ e = .invalidParameter column "LIKE needs a text value" := by
  cases v with
  | null => exact absurd rfl hnull
  | list items => exact absurd rfl (hlist items)
  | json j => exact ⟨⟨j, rfl⟩, (Except.error.inj h).symm⟩
  | _ => exact absurd h (by simp [searchText])

/-- An operator of one value that is no pattern has a sign. -/
theorem exists_sign {op : Operator} (hop : op.arity = .one) (hlike : op.like = none) :
    ∃ sign, sign? op = some sign := by
  cases op <;> simp_all [sign?, Operator.like, Operator.arity]

/-- An operand that suits its operator is refused only by a pattern that is asked for JSON. -/
theorem refused_of_operandFragment {c : Comparison} {e : Fault} (h : c.operator.Takes c.operand)
    (he : operandFragment d c = .error e) : Refused c e := by
  obtain ⟨column, op, operand⟩ := c
  cases h with
  | @single _ v hop hnull hlist =>
    rw [operandFragment_single rfl, singleFragment] at he
    cases hlike : op.like with
    | none =>
      obtain ⟨sign, hs⟩ := exists_sign hop hlike
      simp only [hlike, hs] at he
      cases he
    | some pattern =>
      simp only [hlike] at he
      cases hsearch : searchText column v with
      | ok searched =>
        rw [hsearch] at he
        cases he
      | error e' =>
        rw [hsearch] at he
        obtain rfl := Except.error.inj he
        obtain ⟨⟨j, rfl⟩, rfl⟩ := searchText_refused hnull hlist hsearch
        exact .pattern (by rw [hlike]; rfl) rfl
  | _ => cases he

/-- **One comparison** is refused for its column, or as a pattern that is asked for JSON. -/
theorem refused_of_comparisonFragment {c : Comparison} {e : Fault}
    (h : c.operator.Takes c.operand) (he : comparisonFragment d c = .error e) : Refused c e := by
  unfold comparisonFragment quoteIdentifier at he
  cases hcolumn : checkIdentifier c.column with
  | error e' =>
    rw [hcolumn] at he
    obtain rfl := Except.error.inj he
    obtain ⟨hsafe, rfl⟩ := checkIdentifier_eq_error_iff.mp hcolumn
    exact .column hsafe
  | ok u =>
    rw [hcolumn] at he
    refine refused_of_operandFragment h (d := d) ?_
    cases hoperand : operandFragment d c with
    | error e' =>
      rw [hoperand] at he
      exact he
    | ok f =>
      rw [hoperand] at he
      cases he

/-- **A suited predicate** is refused for one of its comparisons, and only for these reasons. -/
theorem exists_refused_of_render {r : Renderer} {p : Predicate} {e : Fault} (h : p.IsSuited)
    (he : r.render p = .error e) : ∃ c ∈ p.comparisons, Refused c e := by
  have hrefused : Outcome.refusal? (predicateFragment r.dialect p) = some e := by
    rw [← Outcome.refusal?_map, ← render_eq_map, he]
    rfl
  rw [refusal?_predicateFragment] at hrefused
  obtain ⟨c, hc, hce⟩ := List.exists_of_findSome?_eq_some hrefused
  exact ⟨c, hc, refused_of_comparisonFragment (h c hc) (Outcome.refusal?_eq_some_iff.mp hce)⟩

end RowFilter.Sql
