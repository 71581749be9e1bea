import Mathlib.Data.List.Perm.Basic
import RowFilter.Proofs.Access.Resolution

/-!
# Sessions that cannot be resolved

`Refuses` lists what keeps a role from being resolved, with the fault that tells of it: the data
that its scope needs are missing, or the organization fails. Every role is resolved before anything
is made of them, so a role that is refused fails the session wherever it stands, and no other role
makes up for it, not even one that may see everything.

Headlines:
* `resolveRole_eq_error_iff`: a role fails for the listed reasons only, with the listed faults;
* `resolve_eq_error_iff`: the first role that is refused decides how a session fails;
* **`resolve_fails_closed`**: a session fails exactly if one of its roles is refused on its own, in
  whatever order the roles stand.
-/

namespace RowFilter.Access.Resolver

variable {resolver : Resolver} {s : Session} {r : Role} {e : Fault}

/-! ## One role -/

/-- The fault of a role that needs a department when the user has none. -/
def departmentMissing (s : Session) (r : Role) : Fault :=
  .missingScopeData r.name s!"{r.scope.name} scope but user {s.user.shown} has no department"

theorem actingDepartment_eq_error_iff :
    actingDepartment s r = .error e ↔ s.department = none ∧ e = departmentMissing s r := by
  unfold actingDepartment departmentMissing
  cases s.department <;> simp [eq_comm]

/-- Why a role cannot be resolved, and the fault that tells of it. -/
inductive Refuses (resolver : Resolver) (s : Session) (r : Role) : Fault → Prop where
  /-- The scope of the role needs a department, and the user has none. -/
  | noDepartment (hscope : r.scope = .dept ∨ r.scope = .deptAndChild)
      (hnone : s.department = none) : Refuses resolver s r (departmentMissing s r)
  /-- The departments below that of the user cannot be found out. -/
  | organization (hscope : r.scope = .deptAndChild) {id : Id} {e : Fault}
      (hid : s.department = some id) (he : resolver.organization id = .error e) :
      Refuses resolver s r e
  /-- The role is to list departments, and lists none. -/
  | noDepartments (hscope : r.scope = .custom) (hempty : r.departments = []) :
      Refuses resolver s r (.missingScopeData r.name "CUSTOM scope without departments")

/-- **A role that cannot be resolved** is refused for one of the reasons. -/
theorem resolveRole_eq_error_iff :
    resolver.resolveRole s r = .error e ↔ resolver.Refuses s r e := by
  unfold resolveRole
  constructor
  · intro he
    split at he
    · cases he
    · cases he
    · rename_i hscope
      rcases Outcome.bind_error_iff.mp he with he | ⟨_, -, he⟩
      · obtain ⟨hnone, rfl⟩ := actingDepartment_eq_error_iff.mp he
        exact .noDepartment (.inl hscope) hnone
      · cases he
    · rename_i hscope
      rcases Outcome.bind_error_iff.mp he with he | ⟨id, hid, he⟩
      · obtain ⟨hnone, rfl⟩ := actingDepartment_eq_error_iff.mp he
        exact .noDepartment (.inr hscope) hnone
      · rcases Outcome.bind_error_iff.mp he with he | ⟨_, -, he⟩
        · exact .organization hscope (actingDepartment_eq_ok_iff.mp hid) he
        · cases he
    · rename_i hscope
      split at he
      · rename_i hempty
        obtain rfl := Except.error.inj he
        exact .noDepartments hscope (List.isEmpty_iff.mp hempty)
      · cases he
  · intro he
    cases he with
    | noDepartment hscope hnone =>
      have hacting : actingDepartment s r = .error (departmentMissing s r) :=
        actingDepartment_eq_error_iff.mpr ⟨hnone, rfl⟩
      rcases hscope with hscope | hscope <;> rw [hscope]
      · exact Outcome.bind_error_iff.mpr (.inl hacting)
      · exact Outcome.bind_error_iff.mpr (.inl hacting)
    | organization hscope hid he =>
      rw [hscope]
      exact Outcome.bind_error_iff.mpr (.inr ⟨_, actingDepartment_eq_ok_iff.mpr hid,
        Outcome.bind_error_iff.mpr (.inl he)⟩)
    | noDepartments hscope hempty =>
      rw [hscope]
      exact if_pos (List.isEmpty_iff.mpr hempty)

/-- A role is resolved exactly if nothing refuses it. -/
theorem exists_resolveRole_eq_ok_iff :
    (∃ p, resolver.resolveRole s r = .ok p) ↔ ∀ e, ¬resolver.Refuses s r e := by
  simp only [← resolveRole_eq_error_iff]
  cases resolver.resolveRole s r <;> simp

/-- A refusal names the role whose data are missing, or is what the organization answered. -/
theorem Refuses.missing_or_organization (h : resolver.Refuses s r e) :
    (e.code = .missingScopeData ∧ e.context.role = some r.name) ∨
      r.scope = .deptAndChild ∧ ∃ id, s.department = some id ∧
        resolver.organization id = .error e := by
  cases h with
  | noDepartment => exact .inl ⟨rfl, rfl⟩
  | organization hscope hid he => exact .inr ⟨hscope, _, hid, he⟩
  | noDepartments => exact .inl ⟨rfl, rfl⟩

/-! ## Sessions -/

theorem resolve_eq_map (resolver : Resolver) (s : Session) :
    resolver.resolve s = (s.roles.mapM (resolver.resolveRole s)).map fun perRole =>
      .any perRole.eraseDups := by
  unfold resolve
  cases s.roles.mapM (resolver.resolveRole s) <;> rfl

/-- What becomes of a role has nothing to do with the other roles. -/
theorem resolveRole_withRoles (roles : List Role) :
    resolver.resolveRole { s with roles } r = resolver.resolveRole s r := rfl

/-- A session is resolved exactly if nothing refuses any of its roles. -/
theorem exists_resolve_eq_ok_iff :
    (∃ p, resolver.resolve s = .ok p) ↔ ∀ r ∈ s.roles, ∀ e, ¬resolver.Refuses s r e := by
  rw [← Outcome.refusal?_eq_none_iff, resolve_eq_map, Outcome.refusal?_map,
    Outcome.refusal?_eq_none_iff, Outcome.exists_mapM_eq_ok_iff]
  simp only [exists_resolveRole_eq_ok_iff]

/-- **The first role that is refused** decides how a session fails. -/
theorem resolve_eq_error_iff :
    resolver.resolve s = .error e ↔ ∃ before r after, s.roles = before ++ r :: after ∧
      resolver.Refuses s r e ∧ ∀ q ∈ before, ∀ e, ¬resolver.Refuses s q e := by
  rw [resolve_eq_map, Outcome.map_error_iff, Outcome.mapM_eq_error_iff]
  simp only [resolveRole_eq_error_iff, exists_resolveRole_eq_ok_iff]

/-- A session of one role fails as the role does. -/
theorem resolve_singleton_eq_error_iff :
    resolver.resolve { s with roles := [r] } = .error e ↔ resolver.Refuses s r e := by
  rw [resolve_eq_map, Outcome.map_error_iff, ← Outcome.refusal?_eq_some_iff,
    Outcome.refusal?_mapM, List.findSome?_singleton, resolveRole_withRoles,
    Outcome.refusal?_eq_some_iff, resolveRole_eq_error_iff]

/-- **Resolving fails closed**: a session fails exactly if one of its roles would be refused alone,
wherever it stands and whatever the other roles may see. The fault is that of the first such role;
it names the role whose data are missing, or is what the organization answered. So the order of the
roles has no say in whether a session is resolved. -/
theorem resolve_fails_closed (resolver : Resolver) (s : Session) :
    ((∃ e, resolver.resolve s = .error e) ↔ ∃ r ∈ s.roles, ∃ e, resolver.Refuses s r e) ∧
    (∀ e, resolver.resolve s = .error e ↔ ∃ before r after, s.roles = before ++ r :: after ∧
      resolver.Refuses s r e ∧ ∀ q ∈ before, ∀ e, ¬resolver.Refuses s q e) ∧
    (∀ r e, resolver.resolve { s with roles := [r] } = .error e ↔ resolver.Refuses s r e) ∧
    (∀ r e, resolver.Refuses s r e → (e.code = .missingScopeData ∧ e.context.role = some r.name) ∨
      r.scope = .deptAndChild ∧ ∃ id, s.department = some id ∧
        resolver.organization id = .error e) ∧
    ∀ roles, roles.Perm s.roles →
      ((∃ p, resolver.resolve { s with roles } = .ok p) ↔ ∃ p, resolver.resolve s = .ok p) := by
  refine ⟨?_, fun _ => resolve_eq_error_iff, fun _ _ => resolve_singleton_eq_error_iff,
    fun _ _ => Refuses.missing_or_organization, fun roles hperm => ?_⟩
  · have hok : (∃ p, resolver.resolve s = .ok p) ↔
        ∀ r ∈ s.roles, ∀ e, ¬resolver.Refuses s r e := exists_resolve_eq_ok_iff
    cases hresolve : resolver.resolve s with
    | error e => simpa [hresolve] using hok
    | ok p => simpa [hresolve] using hok
  · rw [exists_resolve_eq_ok_iff, exists_resolve_eq_ok_iff]
    simp only [← resolveRole_eq_error_iff, resolveRole_withRoles, hperm.mem_iff]

/-- One role sees everything, one lists no departments, and one needs that of the user. -/
def misconfigured : Session where
  user := .text "u1"
  roles := [{ name := "admin", scope := .all }, { name := "auditor", scope := .custom },
    { name := "lead", scope := .dept }]

/-- The second role fails the session, in whatever order the roles stand. -/
theorem resolve_fails_closed_misconfigured :
    Resolver.resolve {} misconfigured =
      .error (.missingScopeData "auditor" "CUSTOM scope without departments") ∧
    misconfigured.roles.reverse.Perm misconfigured.roles ∧
    ¬∃ p, Resolver.resolve {} { misconfigured with roles := misconfigured.roles.reverse } =
      .ok p := by
  obtain ⟨-, hfirst, -, -, hperm⟩ := resolve_fails_closed {} misconfigured
  have hfails := (hfirst _).mpr ⟨[{ name := "admin", scope := .all }],
    { name := "auditor", scope := .custom }, [{ name := "lead", scope := .dept }], rfl,
    .noDepartments rfl rfl, ?_⟩
  · refine ⟨hfails, List.reverse_perm _, fun hok => ?_⟩
    obtain ⟨p, hp⟩ := (hperm _ (List.reverse_perm _)).mp hok
    rw [hfails] at hp
    cases hp
  · intro q hq e he
    obtain rfl := List.mem_singleton.mp hq
    cases he <;> simp_all

end RowFilter.Access.Resolver
