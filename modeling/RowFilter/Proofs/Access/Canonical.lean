import RowFilter.Proofs.Access.Unrestricted
import RowFilter.Proofs.Distinct
import RowFilter.Proofs.Predicate.Constancy
import RowFilter.Proofs.Predicate.Suitability

/-!
# The form of a scope

A role that does not see everything becomes a single comparison, which `Restricts` lists by scope.
Comparisons are never constant, so where no role sees everything, nothing but repetitions is left
out when the comparisons of the roles are put together. What a scope looks like is settled by that,
whatever the organization answers.

Headlines:
* `Predicate.disjoins_any`: putting comparisons together leaves out repetitions, and nothing else;
* `Resolver.Resolves.always_or_restricts`: a role sees everything, or becomes a comparison;
* `Resolver.Restricts.isIn`: the departments that are listed for a role are each listed once;
* **`Resolver.resolve_canonical`**: a scope is one of the two constants, one comparison, or a
  disjunction of several that are all different, in the order of the roles.
-/

namespace RowFilter

/-! ## Disjunctions without repetition -/

/-- The predicate is the disjunction of some comparisons, each given once, where it occurs first. -/
inductive Predicate.Disjoins (own : List Comparison) : Predicate → Prop where
  | one {c : Comparison} (h : FirstOccurrences own [c]) : Disjoins own (.comparison c)
  | many {kept : List Comparison} (h : FirstOccurrences own kept) (hlength : 2 ≤ kept.length) :
      Disjoins own (.or (kept.map .comparison))

namespace Predicate

variable {own : List Comparison} {p : Predicate}

theorem disjoins_any (hne : own ≠ []) : Disjoins own (any (own.map .comparison).eraseDups) := by
  rw [eraseDups_map fun _ _ => comparison.inj, any_map_comparison]
  have hkept := firstOccurrences_eraseDups own
  match hd : own.eraseDups with
  | [] => exact absurd (hkept.eq_nil_iff.mp hd) hne
  | [c] => exact .one (hd ▸ hkept)
  | c :: d :: rest => exact .many (hd ▸ hkept) (by simp)

theorem Disjoins.ne_never (h : Disjoins own p) : p ≠ never := by
  cases h with
  | one => exact nofun
  | many _ hlength =>
    intro hnever
    rw [List.map_eq_nil_iff.mp (Predicate.or.inj hnever)] at hlength
    exact absurd hlength (by decide)

end Predicate

namespace Access

theorem Id.toValue_injective : Function.Injective Id.toValue := by
  intro a b h
  cases a <;> cases b <;> cases h <;> rfl

namespace Resolver

variable {resolver : Resolver} {s : Session} {r : Role} {p : Predicate} {c : Comparison}

/-! ## One role -/

/-- What is compared for a role that does not see everything. -/
inductive Restricts (resolver : Resolver) (s : Session) (r : Role) : Comparison → Prop where
  | own (h : r.scope = .own) :
      Restricts resolver s r (.equal resolver.columns.owner s.user.toValue)
  | dept (h : r.scope = .dept) {id : Id} (hid : s.department = some id) :
      Restricts resolver s r (.equal resolver.columns.dept id.toValue)
  /-- The department of the user is listed first. -/
  | deptAndChild (h : r.scope = .deptAndChild) {id : Id} {below rest : List Id}
      (hid : s.department = some id) (hbelow : resolver.organization id = .ok below)
      (hids : FirstOccurrences (id :: below) (id :: rest)) :
      Restricts resolver s r (.isIn resolver.columns.dept ((id :: rest).map Id.toValue))
  | custom (h : r.scope = .custom) {ids : List Id} (hne : ids ≠ [])
      (hids : FirstOccurrences r.departments ids) :
      Restricts resolver s r (.isIn resolver.columns.dept (ids.map Id.toValue))

/-- **A role sees everything, or becomes a comparison.** -/
theorem Resolves.always_or_restricts (h : resolver.Resolves s r p) :
    r.scope = .all ∧ p = .always ∨ r.scope ≠ .all ∧ ∃ c, p = .comparison c ∧
      resolver.Restricts s r c := by
  cases h with
  | all hscope => exact .inl ⟨hscope, rfl⟩
  | own hscope => exact .inr ⟨by simp [hscope], _, rfl, .own hscope⟩
  | dept hscope hid => exact .inr ⟨by simp [hscope], _, rfl, .dept hscope hid⟩
  | @deptAndChild hscope id below hid hbelow =>
    have hids := firstOccurrences_eraseDups (id :: below)
    obtain ⟨rest, hrest⟩ := hids.exists_cons
    refine .inr ⟨by simp [hscope], _, rfl, ?_⟩
    rw [hrest] at hids ⊢
    exact .deptAndChild hscope hid hbelow hids
  | custom hscope hne =>
    have hids := firstOccurrences_eraseDups r.departments
    exact .inr ⟨by simp [hscope], _, rfl, .custom hscope (mt hids.eq_nil_iff.mp hne) hids⟩

/-- Only the columns of owner and department are compared. -/
theorem Restricts.column (h : resolver.Restricts s r c) :
    c.column = resolver.columns.owner ∨ c.column = resolver.columns.dept := by
  cases h with
  | own => exact .inl rfl
  | dept | deptAndChild | custom => exact .inr rfl

/-- No pattern is searched for. -/
theorem Restricts.like (h : resolver.Restricts s r c) : c.operator.like = none := by
  cases h <;> rfl

/-- **The departments that are listed** for a role are some, and each is listed once. -/
theorem Restricts.isIn (h : resolver.Restricts s r c) {vs : List Value}
    (hvs : c.operand = .list vs) : vs ≠ [] ∧ vs.Nodup := by
  cases h with
  | own => cases hvs
  | dept => cases hvs
  | deptAndChild _ _ _ hids =>
    cases hvs
    exact ⟨List.cons_ne_nil _ _, hids.nodup.map Id.toValue_injective⟩
  | custom _ hne hids =>
    cases hvs
    exact ⟨mt List.map_eq_nil_iff.mp hne, hids.nodup.map Id.toValue_injective⟩

/-! ## Sessions -/

/-- Whatever is compared in a scope restricts what some role of the session may see. -/
theorem exists_restricts_of_resolve (hp : resolver.resolve s = .ok p) (hc : c ∈ p.comparisons) :
    ∃ r ∈ s.roles, resolver.Restricts s r c := by
  obtain ⟨perRole, hroles, rfl⟩ := resolve_eq_ok_iff.mp hp
  obtain ⟨q, hq, hc⟩ := Predicate.mem_comparisons_any hc
  obtain ⟨r, hr, hrq⟩ := exists_role_of_resolve hroles hq
  rcases hrq.always_or_restricts with ⟨-, rfl⟩ | ⟨-, c', rfl, hrestricts⟩
  · exact absurd hc List.not_mem_nil
  · rw [Predicate.comparisons, List.mem_singleton] at hc
    exact ⟨r, hr, hc ▸ hrestricts⟩

/-- The comparison is what the role becomes. -/
structure Becomes (resolver : Resolver) (s : Session) (r : Role) (c : Comparison) : Prop where
  resolved : resolver.resolveRole s r = .ok (.comparison c)
  restricts : resolver.Restricts s r c

/-- Where no role sees everything, each becomes a comparison. -/
theorem exists_becomes {roles : List Role} {perRole : List Predicate}
    (h : List.Forall₂ (resolver.Resolves s) roles perRole) (hall : ∀ r ∈ roles, r.scope ≠ .all) :
    ∃ own, perRole = own.map .comparison ∧ List.Forall₂ (resolver.Becomes s) roles own := by
  induction h with
  | nil => exact ⟨[], rfl, .nil⟩
  | cons hr _ ih =>
    obtain ⟨hscope, hall⟩ := List.forall_mem_cons.mp hall
    obtain ⟨own, rfl, hown⟩ := ih hall
    rcases hr.always_or_restricts with ⟨hscope', -⟩ | ⟨-, c, rfl, hc⟩
    · exact absurd hscope' hscope
    · exact ⟨c :: own, rfl, .cons ⟨resolveRole_eq_ok_iff.mpr hr, hc⟩ hown⟩

/-- **The scope of roles** none of which sees everything is the disjunction of what they become. -/
theorem exists_disjoins_of_resolve (hp : resolver.resolve s = .ok p) (hne : s.roles ≠ [])
    (hall : ∀ r ∈ s.roles, r.scope ≠ .all) :
    ∃ own, List.Forall₂ (resolver.Becomes s) s.roles own ∧ Predicate.Disjoins own p := by
  obtain ⟨perRole, hroles, rfl⟩ := resolve_eq_ok_iff.mp hp
  obtain ⟨own, rfl, hown⟩ := exists_becomes hroles hall
  refine ⟨own, hown, Predicate.disjoins_any ?_⟩
  rintro rfl
  exact hne (List.forall₂_nil_right_iff.mp hown)

/-- A scope allows everything only as the constant itself. -/
theorem resolve_eq_always_iff (hp : resolver.resolve s = .ok p) :
    p = .always ↔ ∃ r ∈ s.roles, r.scope = .all := by
  rw [← resolve_isAlwaysTrue_iff hp]
  obtain ⟨perRole, -, rfl⟩ := resolve_eq_ok_iff.mp hp
  exact ((Predicate.IsReduced.any _).isConstant_iff Predicate.not_isConstant_or).1.symm

/-- A scope allows nothing, as the constant itself, only for a session without roles. -/
theorem resolve_eq_never_iff (hp : resolver.resolve s = .ok p) : p = .never ↔ s.roles = [] := by
  constructor
  · intro hnever
    by_contra hne
    by_cases hall : ∃ r ∈ s.roles, r.scope = .all
    · exact absurd (hnever.symm.trans ((resolve_eq_always_iff hp).mpr hall)) nofun
    · obtain ⟨own, -, hform⟩ := exists_disjoins_of_resolve hp hne fun r hr hscope =>
        hall ⟨r, hr, hscope⟩
      exact hform.ne_never hnever
  · intro hnil
    obtain ⟨perRole, hroles, rfl⟩ := resolve_eq_ok_iff.mp hp
    rw [hnil, List.forall₂_nil_left_iff] at hroles
    rw [hroles]
    rfl

/-- **A scope has a canonical form**: it is the constant that allows nothing exactly if there are no
roles, and the one that allows everything exactly if a role sees everything. Otherwise it is the
disjunction of what the roles become, without repetition and in the order in which it occurs first.
Only the columns of owner and department are compared, and where values are listed there are some,
each of them once. -/
theorem resolve_canonical (hp : resolver.resolve s = .ok p) :
    (p = .never ↔ s.roles = []) ∧
    (p = .always ↔ ∃ r ∈ s.roles, r.scope = .all) ∧
    (s.roles ≠ [] → (∀ r ∈ s.roles, r.scope ≠ .all) →
      ∃ own, List.Forall₂ (resolver.Becomes s) s.roles own ∧ Predicate.Disjoins own p) ∧
    ∀ c ∈ p.comparisons,
      (c.column = resolver.columns.owner ∨ c.column = resolver.columns.dept) ∧
      ∀ vs, c.operand = .list vs → vs ≠ [] ∧ vs.Nodup := by
  refine ⟨resolve_eq_never_iff hp, resolve_eq_always_iff hp, exists_disjoins_of_resolve hp,
    fun c hc => ?_⟩
  obtain ⟨r, -, hrestricts⟩ := exists_restricts_of_resolve hp hc
  exact ⟨hrestricts.column, fun _ => hrestricts.isIn⟩

/-- A user with three roles, two of which come to the same. -/
def manager : Session where
  user := .text "u1"
  department := some (.int 1)
  roles := [{ name := "manager", scope := .deptAndChild }, { name := "staff", scope := .own },
    { name := "auditor", scope := .custom, departments := [.int 1, .int 2, .int 1] }]

/-- The organization answers with repetitions and with the department itself. -/
def repetitive : Resolver where
  organization := fun _ => .ok [.int 2, .int 1, .int 2]

theorem resolve_canonical_manager :
    ∃ p, repetitive.resolve manager = .ok p ∧ p ≠ .never ∧ p ≠ .always ∧
      (∃ own, List.Forall₂ (repetitive.Becomes manager) manager.roles own ∧
        Predicate.Disjoins own p) ∧
      ∀ c ∈ p.comparisons, (c.column = "create_user" ∨ c.column = "dept_id") ∧
        ∀ vs, c.operand = .list vs → vs ≠ [] ∧ vs.Nodup := by
  have hp : repetitive.resolve manager = .ok (.or
      [.comparison (.isIn "dept_id" [.int 1, .int 2]),
       .comparison (.equal "create_user" (.text "u1"))]) := by rfl
  obtain ⟨hnever, halways, hform, hcomparisons⟩ := resolve_canonical hp
  exact ⟨_, hp, mt hnever.mp (by decide), mt halways.mp (by decide), hform (by decide) (by decide),
    hcomparisons⟩

end Resolver
end Access
end RowFilter
