import RowFilter.Proofs.Sql.ReadBack

/-!
# Rendering goes through the comparisons in order

Whether a predicate can be written, and what it binds, is decided by its comparisons one after
another, depth first. The first that cannot be written on its own is the fault of the whole, and
otherwise each binds its values after those of the ones before it, to placeholders that are
numbered from left to right.

Headlines:
* `refusal?_predicateFragment`: the first comparison that is refused decides;
* `values_of_predicateFragment`: the values are those of the comparisons, in order;
* `render_traverses`: both, of rendering from any index on, with the placeholders of the text.
-/

namespace RowFilter

open Sql Fragment

/-- The values that a comparison binds: its operands, or for a pattern what it searches for,
escaped and with its wildcards. -/
def Comparison.bound (d : Dialect) (c : Comparison) : List Value :=
  match c.operator.like, c.operand with
  | some pattern, .single v =>
    (searchText c.column v).toOption.toList.map fun searched =>
      .text (pattern.wrap (d.escape searched))
  | _, operand => operand.values

namespace Sql

variable {d : Dialect}

/-! ## Faults -/

/-- **The first comparison that is refused decides**. -/
theorem refusal?_predicateFragment (p : Predicate) :
    Outcome.refusal? (predicateFragment d p) =
      p.comparisons.findSome? fun c => Outcome.refusal? (comparisonFragment d c) := by
  have members : ∀ ps : List Predicate, (∀ p ∈ ps, Outcome.refusal? (predicateFragment d p) =
      p.comparisons.findSome? fun c => Outcome.refusal? (comparisonFragment d c)) →
      Outcome.refusal? (ps.mapM (predicateFragment d)) =
        (Predicate.comparisonsOfAll ps).findSome? fun c =>
          Outcome.refusal? (comparisonFragment d c) := by
    intro ps ih
    rw [Outcome.refusal?_mapM, Predicate.comparisonsOfAll_eq]
    induction ps with
    | nil => rfl
    | cons p ps ihs =>
      rw [List.forall_mem_cons] at ih
      rw [List.findSome?_cons, List.flatMap_cons, List.findSome?_append, ← ihs ih.2, ← ih.1]
      cases Outcome.refusal? (predicateFragment d p) <;> rfl
  induction p using Predicate.induct with
  | comparison c =>
    rw [predicateFragment, Predicate.comparisons, List.findSome?_singleton]
  | and ps ih =>
    by_cases hne : ps = []
    · subst hne
      rfl
    · rw [predicateFragment_and hne, Outcome.refusal?_map, members ps ih, Predicate.comparisons]
  | or ps ih =>
    by_cases hne : ps = []
    · subst hne
      rfl
    · rw [predicateFragment_or hne, Outcome.refusal?_map, members ps ih, Predicate.comparisons]
  | not p ih => rw [predicateFragment_not, Outcome.refusal?_map, ih, Predicate.comparisons]

/-! ## Values -/

theorem Tail.values_eq {column : String} {op : Operator} {operand : Operand} {f : Fragment}
    (h : Tail d column op operand f) : f.values = Comparison.bound d ⟨column, op, operand⟩ := by
  have items : ∀ vs : List Value, (vs.map ofValue).flatMap Fragment.values = vs := fun vs => by
    induction vs with
    | nil => rfl
    | cons v vs ih =>
      rw [List.map_cons, List.flatMap_cons, ih, values_ofValue, List.singleton_append]
  cases h with
  | isNull => rfl
  | isNotNull => rfl
  | between low high => rfl
  | isIn v vs =>
    have hbound : Comparison.bound d ⟨column, .isIn, .list (v :: vs)⟩ = v :: vs := rfl
    simp [values_joined, items, hbound]
  | notIn v vs =>
    have hbound : Comparison.bound d ⟨column, .notIn, .list (v :: vs)⟩ = v :: vs := rfl
    simp [values_joined, items, hbound]
  | like hp hs => simp [Comparison.bound, hp, hs, Except.toOption]
  | sign hs => simp [Comparison.bound, like_of_sign? hs, Operand.values]

theorem values_members {ps : List Predicate} {fs : List Fragment}
    (h : List.Forall₂ (fun p f => f.values = p.comparisons.flatMap (Comparison.bound d)) ps fs) :
    fs.flatMap Fragment.values =
      (Predicate.comparisonsOfAll ps).flatMap (Comparison.bound d) := by
  induction h with
  | nil => rfl
  | cons hp _ ih =>
    rw [List.flatMap_cons, ih, hp, Predicate.comparisonsOfAll, List.flatMap_append]

/-- **The values are those of the comparisons**, in order. -/
theorem values_of_predicateFragment {p : Predicate} {f : Fragment}
    (h : predicateFragment d p = .ok f) :
    f.values = p.comparisons.flatMap (Comparison.bound d) := by
  refine predicateFragment_induct
    (motive := fun p f => f.values = p.comparisons.flatMap (Comparison.bound d)) ?_ ?_ ?_ ?_ ?_ ?_ h
  · intro c tail _ ht
    rw [values_append, values_ofText, List.nil_append, ht.values_eq, Predicate.comparisons,
      List.flatMap_singleton]
  · rfl
  · rfl
  · intro ps fs _ hs
    rw [values_parenthesized, values_joined, values_members hs, Predicate.comparisons]
  · intro ps fs _ hs
    rw [values_parenthesized, values_joined, values_members hs, Predicate.comparisons]
  · intro p f hf
    rw [values_append, values_ofText, List.nil_append, values_parenthesized, hf,
      Predicate.comparisons]

/-! ## Placeholders -/

/-- The placeholders of a text are as many as its parameters, numbered one after another. -/
theorem marks_of_render {r : Renderer} {p : Predicate} {out : Rendered}
    (h : r.render p = .ok out) :
    (tokens r.dialect out.sql.toList).map marks =
      some ((List.range out.params.length).map fun k =>
        r.dialect.placeholder (r.firstIndex + k)) := by
  obtain ⟨f, hf, hsql, hparams⟩ := render_eq_ok_iff.mp h
  obtain ⟨ts, hts, -⟩ := exists_spells hf r.firstIndex
  rw [hsql, hts.lexes.tokens_eq, Option.map_some, hts.numbered, isFull_of_predicateFragment hf,
    ← hparams, Dialect.placeholders, List.range'_eq_map_range, List.map_map]
  rfl

/-! ## Two members -/

/-- Two rendered predicates between parentheses, with a text between them. -/
def Rendered.joined (separator : String) (a b : Rendered) : Rendered :=
  ⟨"(" ++ a.sql ++ separator ++ b.sql ++ ")", a.params ++ b.params⟩

theorem rendered_pair {f : Fragment} (hf : f.IsFull) (g : Fragment) (separator : String) (n : Nat) :
    (⟨.ofList ((joined separator [f, g]).parenthesized.text d n),
      (joined separator [f, g]).parenthesized.values⟩ : Rendered) =
    Rendered.joined separator ⟨.ofList (f.text d n), f.values⟩
      ⟨.ofList (g.text d (n + f.values.length)), g.values⟩ := by
  have hsql : String.ofList ((joined separator [f, g]).parenthesized.text d n) =
      "(" ++ .ofList (f.text d n) ++ separator ++ .ofList (g.text d (n + f.values.length)) ++
        ")" := by
    rw [← String.toList_inj, ← hf]
    simp [parenthesized, joined, text_append, holes_append]
  rw [hsql, values_parenthesized, values_joined]
  simp [Rendered.joined]

/-- Of a group of two, the second goes on with the numbers where the first ends. -/
theorem render_pair {r : Renderer} {p q group : Predicate} {separator : String}
    (h : predicateFragment r.dialect group = ([p, q].mapM (predicateFragment r.dialect)).map
      fun fs => (joined separator fs).parenthesized) :
    r.render group = do
      let a ← r.render p
      let b ← { r with firstIndex := r.firstIndex + a.params.length }.render q
      return a.joined separator b := by
  rw [render_eq_map, h, render_eq_map, List.mapM_cons, List.mapM_cons, List.mapM_nil]
  cases hp : predicateFragment r.dialect p with
  | error e => rfl
  | ok f =>
    have hfull := isFull_of_predicateFragment hp
    simp only [Except.map, bind, Except.bind, render_eq_map]
    cases hq : predicateFragment r.dialect q with
    | error e => rfl
    | ok g => exact congrArg Except.ok (rendered_pair hfull g separator r.firstIndex)

theorem firstIndex_startingAt (r : Renderer) {n : Nat} (hn : 1 ≤ n) :
    (r.startingAt n).firstIndex = n :=
  Nat.max_eq_left hn

theorem startingAt_add (r : Renderer) {n : Nat} (hn : 1 ≤ n) (k : Nat) :
    { r.startingAt n with firstIndex := (r.startingAt n).firstIndex + k } =
      r.startingAt (n + k) := by
  rw [firstIndex_startingAt r hn, Renderer.startingAt, Renderer.startingAt,
    Nat.max_eq_left (Nat.le_add_right_of_le hn)]

/-- **Rendering goes through the comparisons in order**: a predicate can be rendered from an index
on if each of its comparisons can, and the first that cannot is the fault otherwise. The parameters
are those of the comparisons one after another, the placeholders of the text are numbered from the
index on, and of a group of two the second is rendered from where the first ends. -/
theorem render_traverses (r : Renderer) (p : Predicate) {n : Nat} (hn : 1 ≤ n) :
    ((∃ out, (r.startingAt n).render p = .ok out) ↔
      ∀ c ∈ p.comparisons, ∃ out, (r.startingAt n).render (.comparison c) = .ok out) ∧
    (∀ e, (r.startingAt n).render p = .error e ↔
      ∃ before c after, p.comparisons = before ++ c :: after ∧
        (r.startingAt n).render (.comparison c) = .error e ∧
        ∀ b ∈ before, ∃ out, (r.startingAt n).render (.comparison b) = .ok out) ∧
    (∀ out, (r.startingAt n).render p = .ok out →
      out.params = p.comparisons.flatMap (Comparison.bound r.dialect) ∧
      (tokens r.dialect out.sql.toList).map marks =
        some ((List.range out.params.length).map fun k => r.dialect.placeholder (n + k))) ∧
    ∀ q,
      ((r.startingAt n).render (.and [p, q]) = do
        let a ← (r.startingAt n).render p
        let b ← (r.startingAt (n + a.params.length)).render q
        return a.joined " AND " b) ∧
      ((r.startingAt n).render (.or [p, q]) = do
        let a ← (r.startingAt n).render p
        let b ← (r.startingAt (n + a.params.length)).render q
        return a.joined " OR " b) := by
  -- The text does not matter for what is refused, so neither does the index.
  have hfirst : Outcome.refusal? ((r.startingAt n).render p) =
      p.comparisons.findSome? fun c =>
        Outcome.refusal? ((r.startingAt n).render (.comparison c)) := by
    simp only [render_eq_map, Outcome.refusal?_map, refusal?_predicateFragment p, predicateFragment]
  refine ⟨?_, fun e => ?_, fun out h => ⟨?_, ?_⟩, fun q => ⟨?_, ?_⟩⟩
  · rw [← Outcome.refusal?_eq_none_iff, hfirst, List.findSome?_eq_none_iff]
    exact forall₂_congr fun c _ => Outcome.refusal?_eq_none_iff
  · rw [← Outcome.refusal?_eq_some_iff, hfirst, List.findSome?_eq_some_iff]
    simp only [Outcome.refusal?_eq_some_iff, Outcome.refusal?_eq_none_iff]
  · obtain ⟨f, hf, -, hparams⟩ := render_eq_ok_iff.mp h
    rw [hparams, values_of_predicateFragment hf]
    rfl
  · have hmarks := marks_of_render h
    rwa [firstIndex_startingAt r hn] at hmarks
  · simp only [← startingAt_add r hn]
    exact render_pair (predicateFragment_and (List.cons_ne_nil _ _))
  · simp only [← startingAt_add r hn]
    exact render_pair (predicateFragment_or (List.cons_ne_nil _ _))

theorem render_ageOrOwner_from_three :
    ∃ out, (Renderer.startingAt { dialect := .mssql } 3).render ageOrOwner = .ok out ∧
      out.params = [.int 7, .text "a%", .int 1, .int 2] ∧
      (tokens .mssql out.sql.toList).map marks = some ["@P3", "@P4", "@P5", "@P6"] := by
  have h : (Renderer.startingAt { dialect := .mssql } 3).render ageOrOwner = .ok
      ⟨"((u.[user] = @P3 OR (name LIKE @P4 ESCAPE '\\')) AND NOT (age BETWEEN @P5 AND @P6))",
        [.int 7, .text "a%", .int 1, .int 2]⟩ := by
    rfl
  have hok := (render_traverses { dialect := .mssql } ageOrOwner (by decide : 1 ≤ 3)).2.2.1 _ h
  exact ⟨_, h, hok.1, hok.2⟩

end Sql
end RowFilter
