import RowFilter.Proofs.Access.Resolution
import RowFilter.Proofs.Criteria.Suitability
import RowFilter.Proofs.Distinct

/-!
# Filters can be written

The comparisons of a scope are made without asking the compiler: an identifier is compared for
equality, or looked for among identifiers of which there is at least one. They are suited all the
same, so what criteria and scope are put together to is suited too.

Headlines:
* `resolve_isSuited`: the scope of a session is suited, whatever the organization answers;
* **`assemble_isSuited`**: so is the filter, and only a column that is no safe name or a pattern
  that is asked for JSON keeps it from being written.
-/

namespace RowFilter.Access

/-! ## Scopes -/

section Scopes

variable {resolver : Resolver} {s : Session} {p : Predicate}

theorem takes_toValue (id : Id) : Operator.equal.Takes (.single id.toValue) := by
  cases id <;> exact .single rfl nofun nofun

theorem isSuited_equal (column : String) (id : Id) :
    (Predicate.comparison (.equal column id.toValue)).IsSuited :=
  Predicate.isSuited_comparison (takes_toValue id)

/-- Departments are looked for among others only where there are any. -/
theorem isSuited_inDepartments {ids : List Id} (h : ids ≠ []) :
    (resolver.inDepartments ids).IsSuited := by
  have hkept : ids.eraseDups ≠ [] := mt (firstOccurrences_eraseDups ids).eq_nil_iff.mp h
  exact Predicate.isSuited_comparison (Operator.takes_list rfl (mt List.map_eq_nil_iff.mp hkept))

/-- **What one role becomes** is suited. -/
theorem Resolver.Resolves.isSuited {r : Role} (h : resolver.Resolves s r p) : p.IsSuited := by
  cases h with
  | all => exact Predicate.isSuited_always
  | own => exact isSuited_equal _ _
  | dept => exact isSuited_equal _ _
  -- The department itself is listed, even if the organization answers with nothing.
  | deptAndChild => exact isSuited_inDepartments (List.cons_ne_nil _ _)
  | custom _ hne => exact isSuited_inDepartments hne

/-- **The scope of a session** is suited. -/
theorem resolve_isSuited (hp : resolver.resolve s = .ok p) : p.IsSuited := by
  obtain ⟨perRole, hall, rfl⟩ := Resolver.resolve_eq_ok_iff.mp hp
  refine Predicate.IsSuited.any fun q hq => ?_
  obtain ⟨r, -, hr⟩ := Resolver.exists_role_of_resolve hall hq
  exact hr.isSuited

end Scopes

/-! ## Filters -/

/-- **A filter is well formed**: each comparison has an operand that its operator takes, and when
the filter cannot be written, one of the columns is no safe name or one of the patterns is asked for
JSON. The fault that an operand does not belong to its operator never occurs. -/
theorem assemble_isSuited {h : Registry.History} {fields : List Field} {resolver : Resolver}
    {s : Session} {asked allowed : Predicate} (hasked : build h.registry fields = .ok asked)
    (hallowed : resolver.resolve s = .ok allowed) :
    (∀ c ∈ (assemble asked allowed).comparisons, c.operator.Takes c.operand) ∧
    ∀ (r : Sql.Renderer) (e : Fault), r.render (assemble asked allowed) = .error e →
      e.code ≠ .internal ∧ ∃ c ∈ (assemble asked allowed).comparisons,
        (e.code = .invalidConfiguration ∧ Sql.isSafe c.column = false) ∨
        (e.code = .invalidParameter ∧ c.operator.like.isSome = true ∧
          ∃ j, c.operand = .single (.json j)) := by
  have hsuited : (assemble asked allowed).IsSuited :=
    (build_isSuited hasked).assemble (resolve_isSuited hallowed)
  refine ⟨hsuited, fun r e he => ?_⟩
  obtain ⟨c, hc, hrefused⟩ := Sql.exists_refused_of_render hsuited he
  refine ⟨hrefused.code_ne_internal, c, hc, ?_⟩
  cases hrefused with
  | column hname => exact .inl ⟨rfl, hname⟩
  | pattern hlike hj => exact .inr ⟨rfl, hlike, _, hj⟩

/-- Asks for names that begin with a document. -/
def documentField : Field :=
  ⟨{ name := "q", operator := .leftLike, column := some "u.name" }, .json (.object [])⟩

/-- A user who sees their own rows and those of their department and below. -/
def clerk : Session where
  user := .text "u1"
  department := some (.int 1)
  roles := [{ name := "self", scope := .own }, { name := "clerk", scope := .deptAndChild }]

/-- The organization knows no department, and a document has no text. -/
theorem assemble_isSuited_of_documentField :
    ∃ asked allowed, build (Registry.History.registry {}) [documentField] = .ok asked ∧
      Resolver.resolve { organization := fun _ => .ok [] } clerk = .ok allowed ∧
      (∀ c ∈ (assemble asked allowed).comparisons, c.operator.Takes c.operand) ∧
      ∃ e, Sql.Renderer.render {} (assemble asked allowed) = .error e ∧
        e.code ≠ .internal ∧ ∃ c ∈ (assemble asked allowed).comparisons,
          (e.code = .invalidConfiguration ∧ Sql.isSafe c.column = false) ∨
          (e.code = .invalidParameter ∧ c.operator.like.isSome = true ∧
            ∃ j, c.operand = .single (.json j)) := by
  have hasked : build (Registry.History.registry {}) [documentField] = .ok (.and
      [.comparison ⟨"u.name", .leftLike, .single (.json (.object []))⟩]) := by rfl
  have hallowed : Resolver.resolve { organization := fun _ => .ok [] } clerk = .ok (.or
      [.comparison (.equal "create_user" (.text "u1")),
       .comparison (.isIn "dept_id" [.int 1])]) := by rfl
  obtain ⟨hsuited, hrefused⟩ := assemble_isSuited hasked hallowed
  exact ⟨_, _, hasked, hallowed, hsuited, _, rfl, hrefused {} _ rfl⟩

end RowFilter.Access
