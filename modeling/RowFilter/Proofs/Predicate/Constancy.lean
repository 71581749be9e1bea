import RowFilter.Proofs.Predicate.Assembly

/-!
# Constant predicates and minimal groups

The constant tests look at the shape of a predicate only. They miss nothing: where all comparisons
are unknown, a predicate has a definite truth exactly if its shape decides it, and then it has that
truth whatever the comparisons mean. Minimal groups go by these tests, so what they leave standing
is either one of the two constants as such or not constant at all.

Headlines:
* `truth_nothingKnown`: where nothing is known, only the constants have a truth;
* **`constant_iff_truth`**: the tests are exact;
* `IsReduced.all` and `IsReduced.any`: what is left of a group;
* **`minimal_groups`**: minimal groups and negations mean what is meant, and are reduced.
-/

namespace RowFilter.Predicate

/-! ## Where nothing is known -/

/-- No comparison is known to be true or false. -/
def nothingKnown : Comparison → Truth := fun _ => .unknown

/-- **Where nothing is known, only the constants have a truth.** Negation swaps the two tests, so
they are followed through a predicate together. -/
theorem truth_nothingKnown (p : Predicate) :
    (p.truth nothingKnown = .true ↔ p.isAlwaysTrue = true) ∧
      (p.truth nothingKnown = .false ↔ p.isAlwaysFalse = true) := by
  induction p using induct with
  | comparison c => simp [nothingKnown, isAlwaysTrue, isAlwaysFalse]
  | and ps ih =>
    rw [truth_and_eq_true_iff, truth_and_eq_false_iff, isAlwaysTrue, isAlwaysFalse,
      allAlwaysTrue_eq, anyAlwaysFalse_eq, List.all_eq_true, List.any_eq_true]
    exact ⟨forall₂_congr fun p hp => (ih p hp).1,
      exists_congr fun p => and_congr_right fun hp => (ih p hp).2⟩
  | or ps ih =>
    rw [truth_or_eq_true_iff, truth_or_eq_false_iff, isAlwaysTrue, isAlwaysFalse,
      anyAlwaysTrue_eq, allAlwaysFalse_eq, List.all_eq_true, List.any_eq_true]
    exact ⟨exists_congr fun p => and_congr_right fun hp => (ih p hp).1,
      forall₂_congr fun p hp => (ih p hp).2⟩
  | not p ih =>
    rw [truth_not, Truth.not_eq_true_iff, Truth.not_eq_false_iff, isAlwaysTrue, isAlwaysFalse]
    exact ih.symm

theorem isAlwaysTrue_of_truth {p : Predicate} (h : ∀ meaning, p.truth meaning = .true) :
    p.isAlwaysTrue = true :=
  (truth_nothingKnown p).1.mp (h nothingKnown)

theorem isAlwaysFalse_of_truth {p : Predicate} (h : ∀ meaning, p.truth meaning = .false) :
    p.isAlwaysFalse = true :=
  (truth_nothingKnown p).2.mp (h nothingKnown)

theorem isAlwaysFalse_eq_false {p : Predicate} (h : p.isAlwaysTrue = true) :
    p.isAlwaysFalse = false := by
  have htrue : p.truth nothingKnown = .true := (truth_nothingKnown p).1.mpr h
  rw [Bool.eq_false_iff]
  intro hfalse
  rw [truth_of_isAlwaysFalse hfalse] at htrue
  cases htrue

/-- **The constant tests are exact**: a predicate passes one of them exactly when it has that truth
whatever its comparisons mean, and none passes both. -/
theorem constant_iff_truth (p : Predicate) :
    (p.isAlwaysTrue = true ↔ ∀ meaning, p.truth meaning = .true) ∧
    (p.isAlwaysFalse = true ↔ ∀ meaning, p.truth meaning = .false) ∧
    ¬(p.isAlwaysTrue = true ∧ p.isAlwaysFalse = true) := by
  refine ⟨⟨fun h _ => truth_of_isAlwaysTrue h, isAlwaysTrue_of_truth⟩,
    ⟨fun h _ => truth_of_isAlwaysFalse h, isAlwaysFalse_of_truth⟩, ?_⟩
  rintro ⟨htrue, hfalse⟩
  rw [isAlwaysFalse_eq_false htrue] at hfalse
  cases hfalse

/-! ## Reduced predicates -/

/-- The shape of the predicate decides its truth. -/
def IsConstant (p : Predicate) : Prop := p.isAlwaysTrue = true ∨ p.isAlwaysFalse = true

theorem not_isConstant_and {ps : List Predicate} (hne : ps ≠ []) (h : ∀ p ∈ ps, ¬p.IsConstant) :
    ¬(and ps).IsConstant := by
  simp only [IsConstant, isAlwaysTrue, isAlwaysFalse, allAlwaysTrue_eq, anyAlwaysFalse_eq,
    List.all_eq_true, List.any_eq_true, not_or, not_exists, not_and]
  obtain ⟨p, hp⟩ := List.exists_mem_of_ne_nil ps hne
  exact ⟨fun hall => h p hp (.inl (hall p hp)), fun q hq hfalse => h q hq (.inr hfalse)⟩

theorem not_isConstant_or {ps : List Predicate} (hne : ps ≠ []) (h : ∀ p ∈ ps, ¬p.IsConstant) :
    ¬(or ps).IsConstant := by
  simp only [IsConstant, isAlwaysTrue, isAlwaysFalse, anyAlwaysTrue_eq, allAlwaysFalse_eq,
    List.all_eq_true, List.any_eq_true, not_or, not_exists, not_and]
  obtain ⟨p, hp⟩ := List.exists_mem_of_ne_nil ps hne
  exact ⟨fun q hq htrue => h q hq (.inl htrue), fun hall => h p hp (.inr (hall p hp))⟩

/-- What may be left of a group: a constant as such, or one or more of its members, in order and
none of them constant. -/
inductive IsReduced (gather : List Predicate → Predicate) (ps : List Predicate) : Predicate → Prop
  | always : IsReduced gather ps always
  | never : IsReduced gather ps never
  | member {p : Predicate} (hp : p ∈ ps) (h : ¬p.IsConstant) : IsReduced gather ps p
  | members {kept : List Predicate} (hkept : kept.Sublist ps) (hlength : 2 ≤ kept.length)
      (h : ∀ p ∈ kept, ¬p.IsConstant) : IsReduced gather ps (gather kept)

namespace IsReduced

variable {gather : List Predicate → Predicate} {ps : List Predicate}

/-- A group of members that are not constant is reduced, where the empty group is a constant. -/
theorem group (hempty : IsReduced gather ps (gather [])) {kept : List Predicate}
    (hkept : kept.Sublist ps) (h : ∀ p ∈ kept, ¬p.IsConstant) :
    IsReduced gather ps (Predicate.group gather kept) := by
  match kept with
  | [] => exact hempty
  | [p] => exact .member (hkept.subset List.mem_cons_self) (h p List.mem_cons_self)
  | p :: q :: rest => exact .members hkept (by simp) h

/-- A minimal conjunction is reduced. -/
theorem all (ps : List Predicate) : IsReduced and ps (Predicate.all ps) := by
  unfold Predicate.all
  cases hsome : ps.any isAlwaysFalse with
  | true => exact .never
  | false =>
    rw [if_neg Bool.false_ne_true]
    refine group .always List.filter_sublist fun p hp hc => ?_
    obtain ⟨hmem, hkept⟩ := List.mem_filter.mp hp
    rcases hc with htrue | hfalse
    · simp [htrue] at hkept
    · exact List.any_eq_false.mp hsome p hmem hfalse

/-- A minimal disjunction is reduced. -/
theorem any (ps : List Predicate) : IsReduced or ps (Predicate.any ps) := by
  unfold Predicate.any
  cases hsome : ps.any isAlwaysTrue with
  | true => exact .always
  | false =>
    rw [if_neg Bool.false_ne_true]
    refine group .never List.filter_sublist fun p hp hc => ?_
    obtain ⟨hmem, hkept⟩ := List.mem_filter.mp hp
    rcases hc with htrue | hfalse
    · exact List.any_eq_false.mp hsome p hmem htrue
    · simp [hfalse] at hkept

/-- A reduced predicate is constant only as one of the two constants themselves. -/
theorem isConstant_iff {p : Predicate} (hr : IsReduced gather ps p)
    (hgather : ∀ {kept : List Predicate}, kept ≠ [] → (∀ p ∈ kept, ¬p.IsConstant) →
      ¬(gather kept).IsConstant) :
    (p.isAlwaysTrue = true ↔ p = Predicate.always) ∧
      (p.isAlwaysFalse = true ↔ p = Predicate.never) := by
  have hconstant : p.IsConstant → p = Predicate.always ∨ p = Predicate.never := by
    intro hc
    cases hr with
    | always => exact .inl rfl
    | never => exact .inr rfl
    | member hp h => exact absurd hc h
    | members hkept hlength h =>
      exact absurd hc (hgather (List.ne_nil_of_length_pos (by omega)) h)
  constructor
  · refine ⟨fun h => (hconstant (.inl h)).resolve_right ?_, fun h => by rw [h]; rfl⟩
    rintro rfl
    cases h
  · refine ⟨fun h => (hconstant (.inr h)).resolve_left ?_, fun h => by rw [h]; rfl⟩
    rintro rfl
    cases h

end IsReduced

/-- Comparisons are never constant, so a minimal disjunction leaves none of them out. -/
theorem any_map_comparison (cs : List Comparison) :
    any (cs.map comparison) = Predicate.group or (cs.map comparison) := by
  have hnone : (cs.map comparison).any isAlwaysTrue = false := by
    simp
  have hkept : (cs.map comparison).filter (!·.isAlwaysFalse) = cs.map comparison := by
    simp [List.filter_eq_self, isAlwaysFalse]
  rw [any, hnone, if_neg Bool.false_ne_true, hkept]

/-- **Minimal groups**: the minimal conjunction, the minimal disjunction and the negation mean what
the plain ones mean. What is left of a group is reduced, so it is recognised as constant only where
nothing but the constant itself is left. -/
theorem minimal_groups (ps : List Predicate) :
    (∀ meaning, (all ps).truth meaning = (and ps).truth meaning) ∧
    (∀ meaning, (any ps).truth meaning = (or ps).truth meaning) ∧
    (∀ p meaning, (negate p).truth meaning = (p.truth meaning).not) ∧
    IsReduced and ps (all ps) ∧ IsReduced or ps (any ps) ∧
    ((all ps).isAlwaysTrue = true ↔ all ps = always) ∧
    ((all ps).isAlwaysFalse = true ↔ all ps = never) ∧
    ((any ps).isAlwaysTrue = true ↔ any ps = always) ∧
    ((any ps).isAlwaysFalse = true ↔ any ps = never) := by
  have hall := (IsReduced.all ps).isConstant_iff not_isConstant_and
  have hany := (IsReduced.any ps).isConstant_iff not_isConstant_or
  exact ⟨fun _ => truth_all ps, fun _ => truth_any ps, fun p _ => truth_negate p,
    .all ps, .any ps, hall.1, hall.2, hany.1, hany.2⟩

end RowFilter.Predicate
