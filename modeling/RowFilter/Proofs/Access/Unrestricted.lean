import RowFilter.Access.Service
import RowFilter.Proofs.Access.Resolution
import RowFilter.Proofs.Criteria.Compilation
import RowFilter.Proofs.Predicate.Assembly
import RowFilter.Proofs.Sql.Clause

/-!
# When nothing is restricted

The clause of a request is left out only for one that restricts nothing: no field applies, and some
role may see everything. The clause goes by the text of the filter, so this rests on what text the
filter of any other request has.

Headlines:
* `build_eq_always_iff`: criteria ask for everything exactly when no field applies;
* `resolve_isAlwaysTrue_iff`: a scope allows everything exactly when some role may see everything;
* **`whereClause_scopedFilter_eq_empty_iff`**: the clause is left out exactly when both hold.
-/

namespace RowFilter

/-- **Criteria ask for everything** exactly when no field applies. -/
theorem build_eq_always_iff {registry : Registry} {fields : List Field} {p : Predicate}
    (hp : build registry fields = .ok p) :
    p = .always ↔ ∀ f ∈ fields, f.isApplicable = false := by
  obtain ⟨children, rfl, hall⟩ := build_eq_ok_iff.mp hp
  have hlength : (applicable fields).length = children.length := hall.length_eq
  rw [Predicate.always, Predicate.and.injEq, ← List.length_eq_zero_iff, ← hlength,
    List.length_eq_zero_iff, applicable_eq_nil_iff]

namespace Access

section Scopes

variable {resolver : Resolver} {s : Session} {p : Predicate}

/-- What a role becomes always holds exactly when the role may see everything. -/
theorem Resolver.Resolves.isAlwaysTrue_iff {r : Role} (h : resolver.Resolves s r p) :
    p.isAlwaysTrue = true ↔ r.scope = .all := by
  cases h with
  | all hscope => simp [hscope]
  | own hscope => simp [hscope]
  | dept hscope => simp [hscope]
  | deptAndChild hscope => simp [hscope, Resolver.inDepartments]
  | custom hscope => simp [hscope, Resolver.inDepartments]

/-- **A scope allows everything** exactly when some role may see everything. -/
theorem resolve_isAlwaysTrue_iff (hp : resolver.resolve s = .ok p) :
    p.isAlwaysTrue = true ↔ ∃ r ∈ s.roles, r.scope = .all := by
  obtain ⟨perRole, hroles, rfl⟩ := Resolver.resolve_eq_ok_iff.mp hp
  rw [Predicate.isAlwaysTrue_any, List.any_eq_true]
  constructor
  · rintro ⟨q, hq, htrue⟩
    obtain ⟨r, hr, hrq⟩ := Resolver.exists_role_of_resolve hroles hq
    exact ⟨r, hr, hrq.isAlwaysTrue_iff.mp htrue⟩
  · rintro ⟨r, hr, hscope⟩
    obtain ⟨q, hq, hrq⟩ := Outcome.exists_of_forall₂_left hroles hr
    exact ⟨q, List.mem_eraseDups.mpr hq, hrq.isAlwaysTrue_iff.mpr hscope⟩

end Scopes

/-- **The clause is left out** exactly for a request that restricts nothing: no field of its
criteria applies, and some role of the session may see everything. -/
theorem whereClause_scopedFilter_eq_empty_iff {service : Service}
    {criteria : Except Fault (List Field)} {s : Session} {p : Predicate}
    (hp : service.scopedFilter criteria (.ok s) = .ok p) {renderer : Sql.Renderer}
    {out : Sql.Rendered} (hout : renderer.render p = .ok out) :
    out.whereClause = "" ↔
      (∃ fields, criteria = .ok fields ∧ ∀ f ∈ fields, f.isApplicable = false) ∧
      ∃ r ∈ s.roles, r.scope = .all := by
  obtain ⟨fields, hcriteria, hp⟩ := Outcome.bind_ok_iff.mp hp
  obtain ⟨asked, hasked, hp⟩ := Outcome.bind_ok_iff.mp hp
  obtain ⟨allowed, hallowed, hp⟩ := Outcome.bind_ok_iff.mp hp
  obtain rfl := Except.ok.inj hp
  have hfields : (∃ fs, criteria = .ok fs ∧ ∀ f ∈ fs, f.isApplicable = false) ↔
      ∀ f ∈ fields, f.isApplicable = false := by
    simp [hcriteria]
  calc
    out.whereClause = "" ↔ assemble asked allowed = .always := Sql.whereClause_eq_empty_iff hout
    _ ↔ asked = .always ∧ allowed.isAlwaysTrue = true :=
      Predicate.assemble_eq_always_iff asked allowed
    _ ↔ _ := by
      rw [build_eq_always_iff hasked, resolve_isAlwaysTrue_iff hallowed, hfields]

/-- A status that is not given. -/
def blankField : Field :=
  ⟨{ name := "status", operator := .equal, column := some "status" }, .text ""⟩

/-- A user who may see their own rows, and everything. -/
def auditor : Session where
  user := .text "u1"
  roles := [{ name := "self", scope := .own }, { name := "auditor", scope := .all }]

/-- The clause is left out although a field is listed and a role of the user sees less. -/
theorem whereClause_scopedFilter_of_auditor :
    ∃ p out, Service.scopedFilter ⟨{}, .standard⟩ (.ok [blankField]) (.ok auditor) = .ok p ∧
      (Sql.Renderer.startingAt { dialect := .mssql } 3).render p = .ok out ∧
      out.whereClause = "" ∧
      (∃ fields, Except.ok [blankField] = (.ok fields : Except Fault (List Field)) ∧
        ∀ f ∈ fields, f.isApplicable = false) ∧
      ∃ r ∈ auditor.roles, r.scope = .all := by
  have hp : Service.scopedFilter ⟨{}, .standard⟩ (.ok [blankField]) (.ok auditor) =
      .ok .always := by
    rfl
  have hout : (Sql.Renderer.startingAt { dialect := .mssql } 3).render .always =
      .ok ⟨"1=1", []⟩ := by
    rfl
  exact ⟨_, _, hp, hout, rfl, (whereClause_scopedFilter_eq_empty_iff hp hout).mp rfl⟩

end Access
end RowFilter
