import RowFilter.Proofs.Sql.Spelling

/-!
# Rendered predicates read back

What a predicate becomes has one reading, and it is the predicate: the same conjunctions,
disjunctions and negations over the same comparisons in the same order, except that a group of one
is that one. So a text is true of a row when its predicate is, however its comparisons turn out.

Headlines:
* `exists_spells`: what a predicate becomes stands for tokens that read as the predicate;
* `truthFrom_condition`: the reading evaluates like the predicate;
* `render_reads_back`: the text has exactly one reading.
-/

namespace RowFilter

open Sql Fragment

/-! ## Predicates as conditions -/

namespace Predicate

mutual

/-- The condition that a predicate states: a group of one is that one, and the empty groups are
constants. -/
def condition : Predicate → Condition
  | comparison c => .test c.test
  | and [] => .constant true
  | or [] => .constant false
  | and (p :: ps) => .allOf (p.condition :: conditions ps)
  | or (p :: ps) => .anyOf (p.condition :: conditions ps)
  | not p => .not p.condition

/-- The conditions that predicates state. -/
def conditions : List Predicate → List Condition
  | [] => []
  | p :: ps => p.condition :: conditions ps

end

theorem conditions_eq (ps : List Predicate) : conditions ps = ps.map condition := by
  induction ps with
  | nil => rfl
  | cons p ps ih => rw [conditions, ih, List.map_cons]

theorem condition_and {ps : List Predicate} (h : ps ≠ []) :
    (and ps).condition = .allOf (ps.map condition) := by
  obtain ⟨p, ps, rfl⟩ := List.exists_cons_of_ne_nil h
  rw [condition, conditions_eq, List.map_cons]

theorem condition_or {ps : List Predicate} (h : ps ≠ []) :
    (or ps).condition = .anyOf (ps.map condition) := by
  obtain ⟨p, ps, rfl⟩ := List.exists_cons_of_ne_nil h
  rw [condition, conditions_eq, List.map_cons]

end Predicate

/-! ## Truth by position -/

namespace Sql.Condition

mutual

/-- The number of comparisons. -/
def leaves : Condition → Nat
  | test _ => 1
  | constant _ => 0
  | and cs => leavesOfAll cs
  | or cs => leavesOfAll cs
  | not c => c.leaves

/-- The number of comparisons in a list of conditions. -/
def leavesOfAll : List Condition → Nat
  | [] => 0
  | c :: cs => c.leaves + leavesOfAll cs

end

mutual

/-- The truth of a condition, given that of each comparison by its position; its first comparison
has the position `k`. -/
def truthFrom (leaf : Nat → Truth) (k : Nat) : Condition → Truth
  | test _ => leaf k
  | constant value => if value then .true else .false
  | and cs => .conj (truthsFrom leaf k cs)
  | or cs => .disj (truthsFrom leaf k cs)
  | not c => (c.truthFrom leaf k).not

/-- The truths of conditions in a row. -/
def truthsFrom (leaf : Nat → Truth) (k : Nat) : List Condition → List Truth
  | [] => []
  | c :: cs => c.truthFrom leaf k :: truthsFrom leaf (k + c.leaves) cs

end

variable {leaf : Nat → Truth} {k : Nat}

theorem leaves_allOf (cs : List Condition) : (allOf cs).leaves = leavesOfAll cs := by
  unfold allOf
  split
  · rw [leavesOfAll, leavesOfAll, Nat.add_zero]
  · rw [leaves]

theorem leaves_anyOf (cs : List Condition) : (anyOf cs).leaves = leavesOfAll cs := by
  unfold anyOf
  split
  · rw [leavesOfAll, leavesOfAll, Nat.add_zero]
  · rw [leaves]

theorem truthFrom_allOf (cs : List Condition) :
    (allOf cs).truthFrom leaf k = .conj (truthsFrom leaf k cs) := by
  unfold allOf
  split
  · simp [truthsFrom]
  · rw [truthFrom]

theorem truthFrom_anyOf (cs : List Condition) :
    (anyOf cs).truthFrom leaf k = .disj (truthsFrom leaf k cs) := by
  unfold anyOf
  split
  · simp [truthsFrom]
  · rw [truthFrom]

end Sql.Condition

namespace Predicate

mutual

/-- The truth of a predicate, given that of each comparison by its position; its first comparison
has the position `k`. -/
def truthFrom (leaf : Nat → Truth) (k : Nat) : Predicate → Truth
  | comparison _ => leaf k
  | and ps => .conj (truthsFrom leaf k ps)
  | or ps => .disj (truthsFrom leaf k ps)
  | not p => (p.truthFrom leaf k).not

/-- The truths of predicates in a row. -/
def truthsFrom (leaf : Nat → Truth) (k : Nat) : List Predicate → List Truth
  | [] => []
  | p :: ps => p.truthFrom leaf k :: truthsFrom leaf (k + p.comparisons.length) ps

end

variable {leaf : Nat → Truth}

theorem leaves_condition (p : Predicate) : p.condition.leaves = p.comparisons.length := by
  have members : ∀ ps : List Predicate, (∀ p ∈ ps, p.condition.leaves = p.comparisons.length) →
      Condition.leavesOfAll (ps.map condition) = (comparisonsOfAll ps).length := by
    intro ps ih
    induction ps with
    | nil => rfl
    | cons p ps ihs =>
      rw [List.forall_mem_cons] at ih
      rw [List.map_cons, Condition.leavesOfAll, ih.1, ihs ih.2, comparisonsOfAll,
        List.length_append]
  induction p using Predicate.induct with
  | comparison c => rfl
  | and ps ih =>
    by_cases hne : ps = []
    · subst hne
      rfl
    · rw [condition_and hne, Condition.leaves_allOf, members ps ih, comparisons]
  | or ps ih =>
    by_cases hne : ps = []
    · subst hne
      rfl
    · rw [condition_or hne, Condition.leaves_anyOf, members ps ih, comparisons]
  | not p ih => rw [condition, Condition.leaves, ih, comparisons]

/-- **The reading evaluates like the predicate**, however the comparisons turn out. -/
theorem truthFrom_condition (p : Predicate) (k : Nat) :
    p.condition.truthFrom leaf k = p.truthFrom leaf k := by
  have members : ∀ (ps : List Predicate) (k : Nat),
      (∀ p ∈ ps, ∀ k, p.condition.truthFrom leaf k = p.truthFrom leaf k) →
      Condition.truthsFrom leaf k (ps.map condition) = truthsFrom leaf k ps := by
    intro ps k ih
    induction ps generalizing k with
    | nil => rfl
    | cons p ps ihs =>
      rw [List.forall_mem_cons] at ih
      rw [List.map_cons, Condition.truthsFrom, truthsFrom, ih.1, leaves_condition, ihs _ ih.2]
  induction p using Predicate.induct generalizing k with
  | comparison c => rfl
  | and ps ih =>
    by_cases hne : ps = []
    · subst hne
      rfl
    · rw [condition_and hne, Condition.truthFrom_allOf, members ps k ih, truthFrom]
  | or ps ih =>
    by_cases hne : ps = []
    · subst hne
      rfl
    · rw [condition_or hne, Condition.truthFrom_anyOf, members ps k ih, truthFrom]
  | not p ih => rw [condition, Condition.truthFrom, ih, truthFrom]

end Predicate

/-! ## Reading back -/

namespace Sql

variable {d : Dialect}

/-- Whichever number its first hole gets, the fragment stands for tokens that read as the
predicate. -/
def ReadsBack (d : Dialect) (p : Predicate) (f : Fragment) : Prop :=
  ∀ n, ∃ ts, Spells d n f ts ∧ Reads .factor ts [p.condition]

theorem exists_spells_and : ∀ {ps : List Predicate} {fs : List Fragment},
    List.Forall₂ (ReadsBack d) ps fs → ps ≠ [] → ∀ n,
    ∃ ts, Spells d n (joined " AND " fs) ts ∧ Reads .conjunction ts (ps.map Predicate.condition)
  | _, _, .nil, hne, _ => absurd rfl hne
  | _, _, .cons hp .nil, _, n => by
    obtain ⟨ts, hts, hr⟩ := hp n
    exact ⟨ts, hts, .factor hr⟩
  | _, _, .cons hp (.cons hq hrest), _, n => by
    obtain ⟨ts, hts, hr⟩ := hp n
    obtain ⟨us, hus, hrs⟩ := exists_spells_and (.cons hq hrest) (List.cons_ne_nil _ _) (n + _)
    exact ⟨_, hts.between opens_and (by decide) hus, .and hr hrs⟩

theorem exists_spells_or : ∀ {ps : List Predicate} {fs : List Fragment},
    List.Forall₂ (ReadsBack d) ps fs → ps ≠ [] → ∀ n,
    ∃ ts, Spells d n (joined " OR " fs) ts ∧ Reads .disjunction ts (ps.map Predicate.condition)
  | _, _, .nil, hne, _ => absurd rfl hne
  | _, _, .cons hp .nil, _, n => by
    obtain ⟨ts, hts, hr⟩ := hp n
    exact ⟨ts, hts, .conjunction (.factor hr)⟩
  | _, _, .cons hp (.cons hq hrest), _, n => by
    have hor : Opens d " OR " [.keyword "or"] := ⟨by cases d <;> decide, rfl⟩
    obtain ⟨ts, hts, hr⟩ := hp n
    obtain ⟨us, hus, hrs⟩ := exists_spells_or (.cons hq hrest) (List.cons_ne_nil _ _) (n + _)
    exact ⟨_, hts.between hor (by decide) hus, .or (.factor hr) hrs⟩

/-- **What a predicate becomes** stands for tokens that read as the predicate. -/
theorem exists_spells {p : Predicate} {f : Fragment} (h : predicateFragment d p = .ok f) :
    ReadsBack d p f := by
  refine predicateFragment_induct (motive := ReadsBack d) ?_ ?_ ?_ ?_ ?_ ?_ h
  · intro c tail hsafe ht n
    exact exists_spells_comparison hsafe ht n
  · intro n
    have hone : Lexes d "1=1".toList [.number "1", .sign "=", .number "1"] :=
      ⟨[.number "1", .sign "="], .word ['1'], _, by cases d <;> decide, trivial, rfl, by decide⟩
    exact ⟨_, .ofText hone rfl, .always⟩
  · intro n
    have hzero : Lexes d "1=0".toList [.number "1", .sign "=", .number "0"] :=
      ⟨[.number "1", .sign "="], .word ['0'], _, by cases d <;> decide, trivial, rfl, by decide⟩
    exact ⟨_, .ofText hzero rfl, .never⟩
  · intro ps fs hne hs n
    obtain ⟨ts, hts, hr⟩ := exists_spells_and hs hne n
    refine ⟨_, hts.parenthesized, ?_⟩
    rw [Predicate.condition_and hne]
    exact .group (.conjunction hr)
  · intro ps fs hne hs n
    obtain ⟨ts, hts, hr⟩ := exists_spells_or hs hne n
    refine ⟨_, hts.parenthesized, ?_⟩
    rw [Predicate.condition_or hne]
    exact .group hr
  · intro p f hf n
    have hnot : Opens d "NOT " [.keyword "not"] := ⟨by cases d <;> decide, rfl⟩
    obtain ⟨ts, hts, hr⟩ := hf n
    exact ⟨_, hts.parenthesized.after hnot, .not (.group (.conjunction (.factor hr)))⟩

/-- **Rendered predicates read back**: the text has exactly one reading, the condition that the
predicate states, and evaluates like the predicate however the comparisons turn out. -/
theorem render_reads_back {r : Renderer} {p : Predicate} {out : Rendered}
    (h : r.render p = .ok out) :
    (∀ c, IsReading r.dialect out.sql c ↔ c = p.condition) ∧
      ∀ c leaf, IsReading r.dialect out.sql c → c.truthFrom leaf 0 = p.truthFrom leaf 0 := by
  obtain ⟨f, hf, hsql, -⟩ := render_eq_ok_iff.mp h
  obtain ⟨ts, hts, hr⟩ := exists_spells hf r.firstIndex
  have hreading : IsReading r.dialect out.sql p.condition :=
    ⟨ts, _, by rw [hsql]; exact hts.lexes.tokens_eq, .conjunction (.factor hr), rfl⟩
  constructor
  · intro c
    constructor
    · intro hc
      exact hc.unique hreading
    · rintro rfl
      exact hreading
  · intro c leaf hc
    obtain rfl := hc.unique hreading
    exact p.truthFrom_condition 0

/-- A disjunction in a conjunction, beside a negated range. -/
def ageOrOwner : Predicate :=
  .and [.or [.comparison ⟨"u.user", .equal, .single (.int 7)⟩,
      .and [.comparison ⟨"name", .leftLike, .single (.text "a")⟩]],
    .not (.comparison ⟨"age", .between, .range (.int 1) (.int 2)⟩)]

theorem render_ageOrOwner_reads_back :
    ∃ out, Renderer.render { dialect := .mssql } ageOrOwner = .ok out ∧
      IsReading .mssql out.sql
        (.and [.or [.test ⟨["u", "user"], .equal, 1⟩, .test ⟨["name"], .innerLike, 1⟩],
          .not (.test ⟨["age"], .between, 2⟩)]) := by
  have h : Renderer.render { dialect := .mssql } ageOrOwner = .ok
      ⟨"((u.[user] = @P1 OR (name LIKE @P2 ESCAPE '\\')) AND NOT (age BETWEEN @P3 AND @P4))",
        [.int 7, .text "a%", .int 1, .int 2]⟩ := by
    rfl
  exact ⟨_, h, ((render_reads_back h).1 _).mpr rfl⟩

end Sql
end RowFilter
