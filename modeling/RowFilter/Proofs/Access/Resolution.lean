import RowFilter.Access.Resolve
import RowFilter.Proofs.Outcome

/-!
# What scopes resolve to

`Resolves` lists what a role becomes, one form for each scope, with what the session and the
organization have to say for it. Later proofs go by these forms and do not open the resolver.

Headlines:
* `resolveRole_eq_ok_iff`: a role that can be resolved becomes the form of its scope;
* `resolve_eq_ok_iff`: a session becomes the minimal disjunction of what its roles become, each
  counted once.
-/

namespace RowFilter.Access.Resolver

variable {resolver : Resolver} {s : Session} {r : Role} {p : Predicate}

theorem actingDepartment_eq_ok_iff {id : Id} :
    actingDepartment s r = .ok id ↔ s.department = some id := by
  unfold actingDepartment
  cases s.department <;> simp

/-- What the scope of a role becomes. -/
inductive Resolves (resolver : Resolver) (s : Session) (r : Role) : Predicate → Prop where
  | all (h : r.scope = .all) : Resolves resolver s r .always
  | own (h : r.scope = .own) :
      Resolves resolver s r (.comparison (.equal resolver.columns.owner s.user.toValue))
  | dept (h : r.scope = .dept) {id : Id} (hid : s.department = some id) :
      Resolves resolver s r (.comparison (.equal resolver.columns.dept id.toValue))
  | deptAndChild (h : r.scope = .deptAndChild) {id : Id} {below : List Id}
      (hid : s.department = some id) (hbelow : resolver.organization id = .ok below) :
      Resolves resolver s r (resolver.inDepartments (id :: below))
  | custom (h : r.scope = .custom) (hne : r.departments ≠ []) :
      Resolves resolver s r (resolver.inDepartments r.departments)

/-- **A role that can be resolved** becomes the form of its scope. -/
theorem resolveRole_eq_ok_iff : resolver.resolveRole s r = .ok p ↔ resolver.Resolves s r p := by
  unfold resolveRole
  constructor
  · intro hp
    split at hp
    · rename_i hscope
      obtain rfl := Except.ok.inj hp
      exact .all hscope
    · rename_i hscope
      obtain rfl := Except.ok.inj hp
      exact .own hscope
    · rename_i hscope
      obtain ⟨id, hid, hp⟩ := Outcome.bind_ok_iff.mp hp
      obtain rfl := Except.ok.inj hp
      exact .dept hscope (actingDepartment_eq_ok_iff.mp hid)
    · rename_i hscope
      obtain ⟨id, hid, hp⟩ := Outcome.bind_ok_iff.mp hp
      obtain ⟨below, hbelow, hp⟩ := Outcome.bind_ok_iff.mp hp
      obtain rfl := Except.ok.inj hp
      exact .deptAndChild hscope (actingDepartment_eq_ok_iff.mp hid) hbelow
    · rename_i hscope
      split at hp
      · cases hp
      · rename_i hne
        obtain rfl := Except.ok.inj hp
        exact .custom hscope (mt List.isEmpty_iff.mpr hne)
  · intro hp
    cases hp with
    | all hscope => rw [hscope]
    | own hscope => rw [hscope]
    | dept hscope hid =>
      rw [hscope]
      exact Outcome.bind_ok_iff.mpr ⟨_, actingDepartment_eq_ok_iff.mpr hid, rfl⟩
    | deptAndChild hscope hid hbelow =>
      rw [hscope]
      exact Outcome.bind_ok_iff.mpr ⟨_, actingDepartment_eq_ok_iff.mpr hid,
        Outcome.bind_ok_iff.mpr ⟨_, hbelow, rfl⟩⟩
    | custom hscope hne =>
      rw [hscope]
      exact if_neg (mt List.isEmpty_iff.mp hne)

/-- **A session** becomes the minimal disjunction of what its roles become, each counted once. -/
theorem resolve_eq_ok_iff :
    resolver.resolve s = .ok p ↔ ∃ perRole, List.Forall₂ (resolver.Resolves s) s.roles perRole ∧
      p = .any perRole.eraseDups := by
  rw [resolve, Outcome.bind_ok_iff]
  refine exists_congr fun perRole => and_congr ?_ ?_
  · rw [Outcome.mapM_eq_ok_iff]
    simp only [resolveRole_eq_ok_iff]
  · constructor
    · intro h
      exact (Except.ok.inj h).symm
    · rintro rfl
      rfl

/-- Whatever is compared in a scope, a role of the session asks for it. -/
theorem exists_role_of_resolve {q : Predicate} {perRole : List Predicate}
    (h : List.Forall₂ (resolver.Resolves s) s.roles perRole) (hq : q ∈ perRole.eraseDups) :
    ∃ r ∈ s.roles, resolver.Resolves s r q :=
  Outcome.exists_of_forall₂_right h (List.mem_eraseDups.mp hq)

end RowFilter.Access.Resolver
