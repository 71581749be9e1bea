import RowFilter.Proofs.Outcome
import RowFilter.Proofs.Predicate.Truth
import RowFilter.Sql.Render

/-!
# What a rendered predicate is made of

One lemma for each form of predicate says when it can be written and of which fragments it is then
put together; later proofs go by these and do not open the renderer. `Tail` lists the seven forms
of what follows the column of a comparison, and the members of a group become one fragment each.

Headlines:
* `render_eq_map`: rendering spells out the fragment of the predicate;
* `operandFragment_eq_ok_iff`: what follows a column has one of the seven forms;
* `predicateFragment_and` and `predicateFragment_or`: a group is its members in order;
* `isFull_of_predicateFragment`: there are as many values as holes.
-/

namespace RowFilter.Sql

open Fragment

variable {d : Dialect}

/-! ## Text -/

namespace Fragment

@[simp] theorem pieces_append (f g : Fragment) : (f ++ g).pieces = f.pieces ++ g.pieces := rfl

@[simp] theorem values_append (f g : Fragment) : (f ++ g).values = f.values ++ g.values := rfl

@[simp] theorem pieces_ofText (s : String) : (ofText s).pieces = [.text s] := rfl

@[simp] theorem values_ofText (s : String) : (ofText s).values = [] := rfl

@[simp] theorem pieces_ofValue (v : Value) : (ofValue v).pieces = [.hole] := rfl

@[simp] theorem values_ofValue (v : Value) : (ofValue v).values = [v] := rfl

@[simp] theorem holes_text (s : String) : holes [.text s] = 0 := rfl

/-- The text of a fragment whose holes are numbered from an index on. -/
def text (d : Dialect) (n : Nat) (f : Fragment) : List Char :=
  (spell d n f.pieces).flatMap String.toList

@[simp] theorem text_ofText (n : Nat) (s : String) : (ofText s).text d n = s.toList := by
  simp [text, spell]

@[simp] theorem text_ofValue (n : Nat) (v : Value) :
    (ofValue v).text d n = (d.placeholder n).toList := by
  simp [text, spell]

theorem text_append (n : Nat) (f g : Fragment) :
    (f ++ g).text d n = f.text d n ++ g.text d (n + holes f.pieces) := by
  simp [text, spell_append]

/-- There are as many values as holes. -/
def IsFull (f : Fragment) : Prop := holes f.pieces = f.values.length

theorem isFull_ofText (s : String) : (ofText s).IsFull := by
  rw [IsFull, pieces_ofText, holes_text, values_ofText, List.length_nil]

theorem isFull_ofValue (v : Value) : (ofValue v).IsFull := by simp [IsFull, holes]

theorem IsFull.append {f g : Fragment} (hf : f.IsFull) (hg : g.IsFull) : (f ++ g).IsFull := by
  unfold IsFull at *
  rw [pieces_append, values_append, holes_append, List.length_append, hf, hg]

theorem IsFull.parenthesized {f : Fragment} (hf : f.IsFull) : f.parenthesized.IsFull :=
  ((isFull_ofText "(").append hf).append (isFull_ofText ")")

theorem isFull_joined (separator : String) :
    ∀ {fs : List Fragment}, (∀ f ∈ fs, f.IsFull) → (joined separator fs).IsFull
  | [], _ => rfl
  | [_], h => h _ List.mem_cons_self
  | _ :: _ :: _, h =>
    ((h _ List.mem_cons_self).append (isFull_ofText separator)).append
      (isFull_joined separator fun _ hf => h _ (List.mem_cons_of_mem _ hf))

theorem values_joined (separator : String) :
    ∀ fs : List Fragment, (joined separator fs).values = fs.flatMap Fragment.values
  | [] => rfl
  | [f] => by simp [joined]
  | f :: g :: rest => by simp [joined, values_joined separator (g :: rest)]

@[simp] theorem values_parenthesized (f : Fragment) : f.parenthesized.values = f.values := by
  simp [parenthesized]

end Fragment

theorem render_eq_map (r : Renderer) (p : Predicate) :
    r.render p = (predicateFragment r.dialect p).map fun f =>
      ⟨.ofList (f.text r.dialect r.firstIndex), f.values⟩ := by
  unfold Renderer.render
  cases predicateFragment r.dialect p with
  | error e => rfl
  | ok f =>
    rw [Except.map, Fragment.text, ← String.toList_join, String.ofList_toList]
    rfl

theorem render_eq_ok_iff {r : Renderer} {p : Predicate} {out : Rendered} :
    r.render p = .ok out ↔ ∃ f, predicateFragment r.dialect p = .ok f ∧
      out.sql.toList = f.text r.dialect r.firstIndex ∧ out.params = f.values := by
  rw [render_eq_map, Outcome.map_ok_iff]
  refine exists_congr fun f => and_congr_right fun _ => ?_
  constructor
  · rintro rfl
    exact ⟨String.toList_ofList .., rfl⟩
  · rintro ⟨hs, hv⟩
    rw [← hs, ← hv, String.ofList_toList]

/-! ## Comparisons -/

/-- What follows the column of a comparison that can be written. -/
inductive Tail (d : Dialect) (column : String) : Operator → Operand → Fragment → Prop where
  | isNull : Tail d column .isNull .none (.ofText " IS NULL")
  | isNotNull : Tail d column .isNotNull .none (.ofText " IS NOT NULL")
  | between (low high : Value) : Tail d column .between (.range low high)
      (.ofText " BETWEEN " ++ .ofValue low ++ .ofText " AND " ++ .ofValue high)
  | isIn (v : Value) (vs : List Value) : Tail d column .isIn (.list (v :: vs))
      (.ofText " IN (" ++ .joined ", " ((v :: vs).map .ofValue) ++ .ofText ")")
  | notIn (v : Value) (vs : List Value) : Tail d column .notIn (.list (v :: vs))
      (.ofText " NOT IN (" ++ .joined ", " ((v :: vs).map .ofValue) ++ .ofText ")")
  | like {op : Operator} {pattern : LikePattern} {v : Value} {searched : String}
      (hp : op.like = some pattern) (hs : searchText column v = .ok searched) :
      Tail d column op (.single v)
        (.ofText " LIKE " ++ .ofValue (.text (pattern.wrap (d.escape searched)))
          ++ .ofText d.escapeClause)
  | sign {op : Operator} {sign : String} {v : Value} (hs : sign? op = some sign) :
      Tail d column op (.single v) (.ofText (" " ++ sign ++ " ") ++ .ofValue v)

theorem like_of_sign? {op : Operator} {sign : String} (h : sign? op = some sign) :
    op.like = none := by
  cases op <;> first | rfl | exact absurd h (by simp [sign?])

theorem operandFragment_single {c : Comparison} {v : Value} (h : c.operand = .single v) :
    operandFragment d c = singleFragment d c v := by
  obtain ⟨column, op, operand⟩ := c
  obtain rfl := h
  cases op <;> rfl

theorem singleFragment_eq_ok_iff {column : String} {op : Operator} {operand : Operand}
    {v : Value} {f : Fragment} :
    singleFragment d ⟨column, op, operand⟩ v = .ok f ↔ Tail d column op (.single v) f := by
  unfold singleFragment
  constructor
  · intro h
    split at h
    · rename_i pattern hp
      obtain ⟨searched, hs, h⟩ := Outcome.bind_ok_iff.mp h
      obtain rfl := Except.ok.inj h
      exact .like hp hs
    · split at h
      · rename_i sign hs
        obtain rfl := Except.ok.inj h
        exact .sign hs
      · exact absurd h (by simp)
  · intro h
    cases h with
    | like hp hs => simp only [hp, hs]; rfl
    | sign hs => simp only [like_of_sign? hs, hs]

/-- **What follows a column** has one of the seven forms. -/
theorem operandFragment_eq_ok_iff {c : Comparison} {f : Fragment} :
    operandFragment d c = .ok f ↔ Tail d c.column c.operator c.operand f := by
  constructor
  · intro h
    unfold operandFragment at h
    split at h
    · rename_i hop hoperand
      rw [hop, hoperand, ← Except.ok.inj h]
      exact .isNull
    · rename_i hop hoperand
      rw [hop, hoperand, ← Except.ok.inj h]
      exact .isNotNull
    · rename_i hop hoperand
      rw [hop, hoperand, ← Except.ok.inj h]
      exact .between _ _
    · rename_i hop hoperand
      rw [hop, hoperand, ← Except.ok.inj h]
      exact .isIn _ _
    · rename_i hop hoperand
      rw [hop, hoperand, ← Except.ok.inj h]
      exact .notIn _ _
    · rename_i hoperand
      rw [hoperand]
      exact singleFragment_eq_ok_iff.mp h
    · exact absurd h (by simp)
  · intro h
    obtain ⟨column, op, operand⟩ := c
    cases h with
    | isNull => rfl
    | isNotNull => rfl
    | between => rfl
    | isIn => rfl
    | notIn => rfl
    | like hp hs =>
      rw [operandFragment_single rfl]
      exact singleFragment_eq_ok_iff.mpr (.like hp hs)
    | sign hs =>
      rw [operandFragment_single rfl]
      exact singleFragment_eq_ok_iff.mpr (.sign hs)

/-- The text of a column that may stand in SQL. -/
def columnText (d : Dialect) (column : String) : String :=
  String.ofList (joinDots ((splitDots column.toList).map (segmentChars d)))

theorem quoteIdentifier_eq_ok_iff {column text : String} :
    quoteIdentifier d column = .ok text ↔ isSafe column = true ∧ text = columnText d column := by
  unfold quoteIdentifier checkIdentifier columnText
  cases isSafe column <;> simp [bind, Except.bind, pure, Except.pure, eq_comm]

theorem comparisonFragment_eq_ok_iff {c : Comparison} {f : Fragment} :
    comparisonFragment d c = .ok f ↔ isSafe c.column = true ∧
      ∃ g, Tail d c.column c.operator c.operand g ∧ f = .ofText (columnText d c.column) ++ g := by
  rw [comparisonFragment, Outcome.bind_ok_iff]
  constructor
  · rintro ⟨text, ht, h⟩
    obtain ⟨g, hg, h⟩ := Outcome.bind_ok_iff.mp h
    obtain ⟨hsafe, rfl⟩ := quoteIdentifier_eq_ok_iff.mp ht
    exact ⟨hsafe, g, operandFragment_eq_ok_iff.mp hg, (Except.ok.inj h).symm⟩
  · rintro ⟨hsafe, g, hg, rfl⟩
    exact ⟨_, quoteIdentifier_eq_ok_iff.mpr ⟨hsafe, rfl⟩,
      Outcome.bind_ok_iff.mpr ⟨g, operandFragment_eq_ok_iff.mpr hg, rfl⟩⟩

theorem Tail.isFull {column : String} {op : Operator} {operand : Operand} {f : Fragment}
    (h : Tail d column op operand f) : f.IsFull := by
  have items : ∀ vs : List Value, (joined ", " (vs.map .ofValue)).IsFull := fun vs =>
    isFull_joined _ (List.forall_mem_map.mpr fun v _ => isFull_ofValue v)
  cases h with
  | isNull => exact isFull_ofText _
  | isNotNull => exact isFull_ofText _
  | between low high =>
    exact (((isFull_ofText _).append (isFull_ofValue _)).append (isFull_ofText _)).append
      (isFull_ofValue _)
  | isIn v vs => exact ((isFull_ofText _).append (items _)).append (isFull_ofText _)
  | notIn v vs => exact ((isFull_ofText _).append (items _)).append (isFull_ofText _)
  | like => exact ((isFull_ofText _).append (isFull_ofValue _)).append (isFull_ofText _)
  | sign => exact (isFull_ofText _).append (isFull_ofValue _)

/-! ## Groups -/

theorem predicateFragments_eq (ps : List Predicate) :
    predicateFragments d ps = ps.mapM (predicateFragment d) := by
  induction ps with
  | nil => rfl
  | cons p ps ih => rw [predicateFragments, List.mapM_cons, ih]

theorem predicateFragment_and {ps : List Predicate} (h : ps ≠ []) :
    predicateFragment d (.and ps) =
      (ps.mapM (predicateFragment d)).map fun fs => (joined " AND " fs).parenthesized := by
  obtain ⟨p, ps, rfl⟩ := List.exists_cons_of_ne_nil h
  rw [predicateFragment, List.mapM_cons, predicateFragments_eq]
  cases predicateFragment d p <;> cases ps.mapM (predicateFragment d) <;> rfl

theorem predicateFragment_or {ps : List Predicate} (h : ps ≠ []) :
    predicateFragment d (.or ps) =
      (ps.mapM (predicateFragment d)).map fun fs => (joined " OR " fs).parenthesized := by
  obtain ⟨p, ps, rfl⟩ := List.exists_cons_of_ne_nil h
  rw [predicateFragment, List.mapM_cons, predicateFragments_eq]
  cases predicateFragment d p <;> cases ps.mapM (predicateFragment d) <;> rfl

theorem predicateFragment_not (p : Predicate) :
    predicateFragment d (.not p) =
      (predicateFragment d p).map fun f => .ofText "NOT " ++ f.parenthesized := by
  rw [predicateFragment]
  cases predicateFragment d p <;> rfl

/-- **Induction over what can be written**: a property of predicates and their fragments that each
way of putting fragments together keeps holds of every predicate that can be written. -/
theorem predicateFragment_induct {motive : Predicate → Fragment → Prop}
    (comparison : ∀ {c : Comparison} {tail : Fragment}, isSafe c.column = true →
      Tail d c.column c.operator c.operand tail →
      motive (.comparison c) (.ofText (columnText d c.column) ++ tail))
    (always : motive (.and []) (.ofText "1=1"))
    (never : motive (.or []) (.ofText "1=0"))
    (and : ∀ {ps : List Predicate} {fs : List Fragment}, ps ≠ [] → List.Forall₂ motive ps fs →
      motive (.and ps) (joined " AND " fs).parenthesized)
    (or : ∀ {ps : List Predicate} {fs : List Fragment}, ps ≠ [] → List.Forall₂ motive ps fs →
      motive (.or ps) (joined " OR " fs).parenthesized)
    (not : ∀ {p : Predicate} {f : Fragment}, motive p f →
      motive (.not p) (.ofText "NOT " ++ f.parenthesized))
    {p : Predicate} {f : Fragment} (h : predicateFragment d p = .ok f) : motive p f := by
  have members : ∀ {ps : List Predicate} {fs : List Fragment},
      (∀ p ∈ ps, ∀ {f : Fragment}, predicateFragment d p = .ok f → motive p f) →
      ps.mapM (predicateFragment d) = .ok fs → List.Forall₂ motive ps fs := by
    intro ps fs ih hs
    exact Outcome.forall₂_imp_of_mem ih (Outcome.mapM_eq_ok_iff.mp hs)
  induction p using Predicate.induct generalizing f with
  | comparison c =>
    rw [predicateFragment, comparisonFragment_eq_ok_iff] at h
    obtain ⟨hsafe, tail, ht, rfl⟩ := h
    exact comparison hsafe ht
  | and ps ih =>
    by_cases hne : ps = []
    · subst hne
      rw [predicateFragment] at h
      exact Except.ok.inj h ▸ always
    · rw [predicateFragment_and hne, Outcome.map_ok_iff] at h
      obtain ⟨fs, hs, rfl⟩ := h
      exact and hne (members ih hs)
  | or ps ih =>
    by_cases hne : ps = []
    · subst hne
      rw [predicateFragment] at h
      exact Except.ok.inj h ▸ never
    · rw [predicateFragment_or hne, Outcome.map_ok_iff] at h
      obtain ⟨fs, hs, rfl⟩ := h
      exact or hne (members ih hs)
  | not p ih =>
    rw [predicateFragment_not, Outcome.map_ok_iff] at h
    obtain ⟨f, hf, rfl⟩ := h
    exact not (ih hf)

/-- **There are as many values as holes** in what a predicate becomes. -/
theorem isFull_of_predicateFragment {p : Predicate} {f : Fragment}
    (h : predicateFragment d p = .ok f) : f.IsFull := by
  have members : ∀ {ps : List Predicate} {fs : List Fragment},
      List.Forall₂ (fun _ f => f.IsFull) ps fs → ∀ f ∈ fs, f.IsFull := fun hs f hf =>
    (Outcome.exists_of_forall₂_right hs hf).choose_spec.2
  refine predicateFragment_induct (motive := fun _ f => f.IsFull) ?_ ?_ ?_ ?_ ?_ ?_ h
  · intro _ _ _ ht
    exact (isFull_ofText _).append ht.isFull
  · exact isFull_ofText _
  · exact isFull_ofText _
  · intro _ _ _ hs
    exact (isFull_joined _ (members hs)).parenthesized
  · intro _ _ _ hs
    exact (isFull_joined _ (members hs)).parenthesized
  · intro _ _ hf
    exact (isFull_ofText _).append hf.parenthesized

end RowFilter.Sql
