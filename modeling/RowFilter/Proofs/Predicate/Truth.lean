import RowFilter.Criteria.Compile

/-!
# Truth of predicates

A comparison with a null column is neither true nor false, so a predicate has one of three truth
values on a row, once it is known which of them each comparison has. Conjunction and disjunction
are those of SQL: a false member decides a conjunction and a true one a disjunction, whatever is
unknown beside it.

Headlines:
* `truth_all`, `truth_any` and `truth_negate`: the minimal groups have the truth of the groups as
  given, and negation that of the negation;
* `truth_assemble`: assembling is conjunction;
* `conj_eq_true_iff` and `disj_eq_true_iff`: a row passes a conjunction exactly when it passes
  every member, and a disjunction exactly when it passes some member.
-/

namespace RowFilter

/-! ## Truth values -/

/-- What a condition says about a row. -/
inductive Truth where
  | true
  | false
  | unknown
  deriving DecidableEq

namespace Truth

/-- The truth of a negation. -/
protected def not : Truth → Truth
  | true => false
  | false => true
  | unknown => unknown

/-- The truth of a conjunction. -/
protected def and : Truth → Truth → Truth
  | false, _ | _, false => false
  | true, true => true
  | _, _ => unknown

/-- The truth of a disjunction. -/
protected def or : Truth → Truth → Truth
  | true, _ | _, true => true
  | false, false => false
  | _, _ => unknown

/-- The truth of a conjunction of any number of conditions. -/
def conj (ts : List Truth) : Truth := ts.foldr Truth.and true

/-- The truth of a disjunction of any number of conditions. -/
def disj (ts : List Truth) : Truth := ts.foldr Truth.or false

@[simp] theorem and_true (t : Truth) : t.and true = t := by cases t <;> rfl

@[simp] theorem true_and (t : Truth) : Truth.and true t = t := by cases t <;> rfl

@[simp] theorem and_false (t : Truth) : t.and false = false := by cases t <;> rfl

@[simp] theorem false_and (t : Truth) : Truth.and false t = false := by cases t <;> rfl

@[simp] theorem or_false (t : Truth) : t.or false = t := by cases t <;> rfl

@[simp] theorem false_or (t : Truth) : Truth.or false t = t := by cases t <;> rfl

theorem and_eq_true_iff {s t : Truth} : s.and t = true ↔ s = true ∧ t = true := by
  cases s <;> cases t <;> decide

theorem and_eq_false_iff {s t : Truth} : s.and t = false ↔ s = false ∨ t = false := by
  cases s <;> cases t <;> decide

theorem or_eq_true_iff {s t : Truth} : s.or t = true ↔ s = true ∨ t = true := by
  cases s <;> cases t <;> decide

theorem or_eq_false_iff {s t : Truth} : s.or t = false ↔ s = false ∧ t = false := by
  cases s <;> cases t <;> decide

theorem not_eq_true_iff {t : Truth} : t.not = true ↔ t = false := by
  cases t <;> decide

theorem not_eq_false_iff {t : Truth} : t.not = false ↔ t = true := by
  cases t <;> decide

@[simp] theorem conj_nil : conj [] = true := rfl

@[simp] theorem conj_cons (t : Truth) (ts : List Truth) : conj (t :: ts) = t.and (conj ts) := rfl

@[simp] theorem disj_nil : disj [] = false := rfl

@[simp] theorem disj_cons (t : Truth) (ts : List Truth) : disj (t :: ts) = t.or (disj ts) := rfl

/-- A conjunction is true exactly when every member is. -/
theorem conj_eq_true_iff {ts : List Truth} : conj ts = true ↔ ∀ t ∈ ts, t = true := by
  induction ts with
  | nil => simp
  | cons t ts ih => rw [conj_cons, and_eq_true_iff, ih, List.forall_mem_cons]

/-- A conjunction is false exactly when some member is. -/
theorem conj_eq_false_iff {ts : List Truth} : conj ts = false ↔ false ∈ ts := by
  induction ts with
  | nil => simp
  | cons t ts ih => rw [conj_cons, and_eq_false_iff, ih, List.mem_cons, eq_comm]

/-- A disjunction is true exactly when some member is. -/
theorem disj_eq_true_iff {ts : List Truth} : disj ts = true ↔ true ∈ ts := by
  induction ts with
  | nil => simp
  | cons t ts ih => rw [disj_cons, or_eq_true_iff, ih, List.mem_cons, eq_comm]

/-- A disjunction is false exactly when every member is. -/
theorem disj_eq_false_iff {ts : List Truth} : disj ts = false ↔ ∀ t ∈ ts, t = false := by
  induction ts with
  | nil => simp
  | cons t ts ih => rw [disj_cons, or_eq_false_iff, ih, List.forall_mem_cons]

/-- Members that are true do not count in a conjunction. -/
theorem conj_filter {α : Type} {keep : α → Bool} {f : α → Truth} {as : List α}
    (h : ∀ a ∈ as, keep a = Bool.false → f a = true) :
    conj ((as.filter keep).map f) = conj (as.map f) := by
  induction as with
  | nil => rfl
  | cons a as ih =>
    have ih := ih fun b hb => h b (List.mem_cons_of_mem a hb)
    cases hk : keep a with
    | true => simp [hk, ih]
    | false => simp [hk, ih, h a List.mem_cons_self hk]

/-- Members that are false do not count in a disjunction. -/
theorem disj_filter {α : Type} {keep : α → Bool} {f : α → Truth} {as : List α}
    (h : ∀ a ∈ as, keep a = Bool.false → f a = false) :
    disj ((as.filter keep).map f) = disj (as.map f) := by
  induction as with
  | nil => rfl
  | cons a as ih =>
    have ih := ih fun b hb => h b (List.mem_cons_of_mem a hb)
    cases hk : keep a with
    | true => simp [hk, ih]
    | false => simp [hk, ih, h a List.mem_cons_self hk]

end Truth

/-! ## Induction -/

namespace Predicate

/-- What holds of comparisons, and of groups and negations if it holds of their members, holds of
every predicate. -/
@[elab_as_elim]
theorem induct {motive : Predicate → Prop} (comparison : ∀ c, motive (.comparison c))
    (and : ∀ ps, (∀ p ∈ ps, motive p) → motive (.and ps))
    (or : ∀ ps, (∀ p ∈ ps, motive p) → motive (.or ps))
    (not : ∀ p, motive p → motive (.not p)) (p : Predicate) : motive p :=
  Predicate.rec (motive_1 := motive) (motive_2 := fun ps => ∀ p ∈ ps, motive p)
    comparison and or not (fun _ h => absurd h List.not_mem_nil)
    (fun _ _ hp hps => List.forall_mem_cons.mpr ⟨hp, hps⟩) p

/-! ## Truth of predicates -/

mutual

/-- The truth of a predicate, given that of its comparisons. -/
def truth (meaning : Comparison → Truth) : Predicate → Truth
  | comparison c => meaning c
  | and ps => .conj (truths meaning ps)
  | or ps => .disj (truths meaning ps)
  | not p => (p.truth meaning).not

/-- The truths of a list of predicates. -/
def truths (meaning : Comparison → Truth) : List Predicate → List Truth
  | [] => []
  | p :: ps => p.truth meaning :: truths meaning ps

end

variable {meaning : Comparison → Truth}

theorem truths_eq (ps : List Predicate) : truths meaning ps = ps.map (truth meaning) := by
  induction ps <;> simp_all [truths]

@[simp] theorem truth_comparison (c : Comparison) : (comparison c).truth meaning = meaning c := by
  rw [truth]

@[simp] theorem truth_and (ps : List Predicate) :
    (and ps).truth meaning = .conj (ps.map (truth meaning)) := by
  rw [truth, truths_eq]

@[simp] theorem truth_or (ps : List Predicate) :
    (or ps).truth meaning = .disj (ps.map (truth meaning)) := by
  rw [truth, truths_eq]

@[simp] theorem truth_not (p : Predicate) : (not p).truth meaning = (p.truth meaning).not := by
  rw [truth]

theorem truth_and_eq_true_iff {ps : List Predicate} :
    (and ps).truth meaning = .true ↔ ∀ p ∈ ps, p.truth meaning = .true := by
  rw [truth_and, Truth.conj_eq_true_iff, List.forall_mem_map]

theorem truth_and_eq_false_iff {ps : List Predicate} :
    (and ps).truth meaning = .false ↔ ∃ p ∈ ps, p.truth meaning = .false := by
  rw [truth_and, Truth.conj_eq_false_iff, List.mem_map]

theorem truth_or_eq_true_iff {ps : List Predicate} :
    (or ps).truth meaning = .true ↔ ∃ p ∈ ps, p.truth meaning = .true := by
  rw [truth_or, Truth.disj_eq_true_iff, List.mem_map]

theorem truth_or_eq_false_iff {ps : List Predicate} :
    (or ps).truth meaning = .false ↔ ∀ p ∈ ps, p.truth meaning = .false := by
  rw [truth_or, Truth.disj_eq_false_iff, List.forall_mem_map]

@[simp] theorem truth_always : always.truth meaning = .true := by
  rw [always, truth_and, List.map_nil, Truth.conj_nil]

@[simp] theorem truth_never : never.truth meaning = .false := by
  rw [never, truth_or, List.map_nil, Truth.disj_nil]

/-! ## Constants -/

/-- The constant tests tell the truth, whatever the comparisons mean. -/
theorem truth_of_constant (p : Predicate) :
    (p.isAlwaysTrue = true → p.truth meaning = .true) ∧
      (p.isAlwaysFalse = true → p.truth meaning = .false) := by
  induction p using induct with
  | comparison c => simp [isAlwaysTrue, isAlwaysFalse]
  | and ps ih =>
    rw [isAlwaysTrue, isAlwaysFalse, allAlwaysTrue_eq, anyAlwaysFalse_eq, List.all_eq_true,
      List.any_eq_true, truth_and_eq_true_iff, truth_and_eq_false_iff]
    exact ⟨fun h p hp => (ih p hp).1 (h p hp), fun ⟨p, hp, h⟩ => ⟨p, hp, (ih p hp).2 h⟩⟩
  | or ps ih =>
    rw [isAlwaysTrue, isAlwaysFalse, anyAlwaysTrue_eq, allAlwaysFalse_eq, List.all_eq_true,
      List.any_eq_true, truth_or_eq_true_iff, truth_or_eq_false_iff]
    exact ⟨fun ⟨p, hp, h⟩ => ⟨p, hp, (ih p hp).1 h⟩, fun h p hp => (ih p hp).2 (h p hp)⟩
  | not p ih =>
    simp only [isAlwaysTrue, isAlwaysFalse, truth_not]
    exact ⟨fun h => by rw [ih.2 h, Truth.not], fun h => by rw [ih.1 h, Truth.not]⟩

theorem truth_of_isAlwaysTrue {p : Predicate} (h : p.isAlwaysTrue = true) :
    p.truth meaning = .true :=
  (truth_of_constant p).1 h

theorem truth_of_isAlwaysFalse {p : Predicate} (h : p.isAlwaysFalse = true) :
    p.truth meaning = .false :=
  (truth_of_constant p).2 h

/-! ## Minimal groups -/

theorem truth_group_and (ps : List Predicate) :
    (group and ps).truth meaning = .conj (ps.map (truth meaning)) := by
  unfold group
  split
  · simp
  · exact truth_and ps

theorem truth_group_or (ps : List Predicate) :
    (group or ps).truth meaning = .disj (ps.map (truth meaning)) := by
  unfold group
  split
  · simp
  · exact truth_or ps

/-- **A minimal conjunction** has the truth of the conjunction. -/
theorem truth_all (ps : List Predicate) : (all ps).truth meaning = (and ps).truth meaning := by
  unfold all
  split
  · rename_i h
    obtain ⟨p, hp, hf⟩ := List.any_eq_true.mp h
    rw [truth_never, eq_comm, truth_and_eq_false_iff]
    exact ⟨p, hp, truth_of_isAlwaysFalse hf⟩
  · rw [truth_group_and, truth_and]
    exact Truth.conj_filter fun p _ hp => truth_of_isAlwaysTrue (by simpa using hp)

/-- **A minimal disjunction** has the truth of the disjunction. -/
theorem truth_any (ps : List Predicate) : (any ps).truth meaning = (or ps).truth meaning := by
  unfold any
  split
  · rename_i h
    obtain ⟨p, hp, ht⟩ := List.any_eq_true.mp h
    rw [truth_always, eq_comm, truth_or_eq_true_iff]
    exact ⟨p, hp, truth_of_isAlwaysTrue ht⟩
  · rw [truth_group_or, truth_or]
    exact Truth.disj_filter fun p _ hp => truth_of_isAlwaysFalse (by simpa using hp)

/-- **A negation** has the opposite truth, also where it swaps the constants. -/
theorem truth_negate (p : Predicate) : p.negate.truth meaning = (p.truth meaning).not := by
  unfold negate
  split
  · rename_i h
    rw [truth_never, truth_of_isAlwaysTrue h, Truth.not]
  · split
    · rename_i h
      rw [truth_always, truth_of_isAlwaysFalse h, Truth.not]
    · exact truth_not p

/-- **Assembling is conjunction**, on whichever shortcut it takes. -/
theorem truth_assemble (asked allowed : Predicate) :
    (assemble asked allowed).truth meaning =
      (asked.truth meaning).and (allowed.truth meaning) := by
  unfold assemble
  split
  · rename_i h
    rw [truth_of_isAlwaysTrue h, Truth.and_true]
  · split
    · rename_i h
      rw [truth_of_isAlwaysTrue h, Truth.true_and]
    · split
      · rename_i h
        rw [truth_never]
        rcases (Bool.or_eq_true _ _).mp h with h | h
        · rw [truth_of_isAlwaysFalse h, Truth.false_and]
        · rw [truth_of_isAlwaysFalse h, Truth.and_false]
      · simp

end Predicate
end RowFilter
