import RowFilter.Proofs.Sql.Fragment

/-!
# Values stay out of the text

The skeleton of a predicate is all of it but its values: the groups and negations, and of each
comparison the column, the operator and how many values there are of which kind of operand. The
text of a rendered predicate is a function of the skeleton, so values reach only the parameters.

Headlines:
* `Tail.exists_skeleton`: what follows a column is the same pieces for all values;
* `exists_pieces_skeleton`: so is all that a predicate becomes;
* `render_eq_of_skeleton_eq`: one skeleton gives one text and as many parameters.
-/

namespace RowFilter

open Sql Fragment

/-! ## Skeletons -/

/-- The value that stands for any other. Patterns may search for it too. -/
def Value.blank : Value := .bool true

/-- The operand with nothing left of its values but their number. -/
def Operand.skeleton : Operand → Operand
  | none => none
  | single _ => single .blank
  | range _ _ => range .blank .blank
  | list items => list (.replicate items.length .blank)

/-- The comparison without its values. -/
def Comparison.skeleton (c : Comparison) : Comparison := { c with operand := c.operand.skeleton }

namespace Predicate

mutual

/-- The predicate without its values. -/
def skeleton : Predicate → Predicate
  | comparison c => comparison c.skeleton
  | and ps => and (skeletons ps)
  | or ps => or (skeletons ps)
  | not p => not p.skeleton

/-- Predicates without their values. -/
def skeletons : List Predicate → List Predicate
  | [] => []
  | p :: ps => p.skeleton :: skeletons ps

end

theorem skeletons_eq (ps : List Predicate) : skeletons ps = ps.map skeleton := by
  induction ps with
  | nil => rfl
  | cons p ps ih => rw [skeletons, ih, List.map_cons]

end Predicate

namespace Sql

variable {d : Dialect}

/-! ## Pieces -/

/-- Joined fragments have the pieces that their members have. -/
theorem pieces_joined_congr (separator : String) : ∀ {fs gs : List Fragment},
    List.Forall₂ (fun f g => f.pieces = g.pieces) fs gs →
    (joined separator fs).pieces = (joined separator gs).pieces
  | _, _, .nil => rfl
  | _, _, .cons h .nil => h
  | _, _, .cons h (.cons h' hrest) => by
    have ih := pieces_joined_congr separator (.cons h' hrest)
    simp only [joined, pieces_append, h, ih]

theorem pieces_items : ∀ vs : List Value,
    List.Forall₂ (fun f g : Fragment => f.pieces = g.pieces)
      ((List.replicate vs.length Value.blank).map .ofValue) (vs.map .ofValue)
  | [] => .nil
  | _ :: vs => .cons rfl (pieces_items vs)

theorem pieces_list (start : String) (v : Value) (vs : List Value) :
    (ofText start ++ joined ", " ((Value.blank :: .replicate vs.length .blank).map .ofValue)
      ++ ofText ")").pieces =
    (ofText start ++ joined ", " ((v :: vs).map .ofValue) ++ ofText ")").pieces := by
  have hitems : (joined ", " ((Value.blank :: .replicate vs.length .blank).map .ofValue)).pieces =
      (joined ", " ((v :: vs).map .ofValue)).pieces :=
    pieces_joined_congr ", " (pieces_items (v :: vs))
  rw [pieces_append, pieces_append, hitems, pieces_append, pieces_append]

/-- What follows a column is the same pieces for all values. -/
theorem Tail.exists_skeleton {column : String} {op : Operator} {operand : Operand} {f : Fragment}
    (h : Tail d column op operand f) :
    ∃ g, Tail d column op operand.skeleton g ∧ g.pieces = f.pieces := by
  cases h with
  | isNull => exact ⟨_, .isNull, rfl⟩
  | isNotNull => exact ⟨_, .isNotNull, rfl⟩
  | between low high => exact ⟨_, .between _ _, rfl⟩
  | isIn v vs => exact ⟨_, .isIn .blank (.replicate vs.length .blank), pieces_list _ v vs⟩
  | notIn v vs => exact ⟨_, .notIn .blank (.replicate vs.length .blank), pieces_list _ v vs⟩
  | like hp hs =>
    refine ⟨_, .like hp rfl, ?_⟩
    rw [pieces_append, pieces_append, pieces_append, pieces_append, pieces_ofValue, pieces_ofValue]
  | sign hs => exact ⟨_, .sign hs, rfl⟩

/-- The predicate without its values can be written too, and is then the same pieces. -/
def SkeletonAgrees (d : Dialect) (p : Predicate) (f : Fragment) : Prop :=
  ∃ g, predicateFragment d p.skeleton = .ok g ∧ g.pieces = f.pieces

theorem SkeletonAgrees.members {ps : List Predicate} {fs : List Fragment}
    (h : List.Forall₂ (SkeletonAgrees d) ps fs) :
    ∃ gs, (ps.map Predicate.skeleton).mapM (predicateFragment d) = .ok gs ∧
      List.Forall₂ (fun g f => g.pieces = f.pieces) gs fs := by
  induction h with
  | nil => exact ⟨[], rfl, .nil⟩
  | cons hp _ ih =>
    obtain ⟨g, hg, hpieces⟩ := hp
    obtain ⟨gs, hgs, hrest⟩ := ih
    refine ⟨g :: gs, ?_, .cons hpieces hrest⟩
    rw [Outcome.mapM_eq_ok_iff] at hgs ⊢
    exact .cons hg hgs

/-- **What a predicate becomes** is the same pieces for all values. -/
theorem exists_pieces_skeleton {p : Predicate} {f : Fragment}
    (h : predicateFragment d p = .ok f) : SkeletonAgrees d p f := by
  refine predicateFragment_induct (motive := SkeletonAgrees d) ?_ ?_ ?_ ?_ ?_ ?_ h
  · intro c tail hsafe ht
    obtain ⟨g, hg, hpieces⟩ := ht.exists_skeleton
    refine ⟨.ofText (columnText d c.column) ++ g, ?_, ?_⟩
    · rw [Predicate.skeleton, predicateFragment]
      exact comparisonFragment_eq_ok_iff.mpr ⟨hsafe, g, hg, rfl⟩
    · rw [pieces_append, pieces_append, hpieces]
  · exact ⟨_, rfl, rfl⟩
  · exact ⟨_, rfl, rfl⟩
  · intro ps fs hne hs
    obtain ⟨gs, hgs, hpieces⟩ := SkeletonAgrees.members hs
    refine ⟨(joined " AND " gs).parenthesized, ?_, ?_⟩
    · rw [Predicate.skeleton, Predicate.skeletons_eq,
        predicateFragment_and (List.map_eq_nil_iff.not.mpr hne), hgs]
      rfl
    · simp only [parenthesized, pieces_append, pieces_joined_congr " AND " hpieces]
  · intro ps fs hne hs
    obtain ⟨gs, hgs, hpieces⟩ := SkeletonAgrees.members hs
    refine ⟨(joined " OR " gs).parenthesized, ?_, ?_⟩
    · rw [Predicate.skeleton, Predicate.skeletons_eq,
        predicateFragment_or (List.map_eq_nil_iff.not.mpr hne), hgs]
      rfl
    · simp only [parenthesized, pieces_append, pieces_joined_congr " OR " hpieces]
  · intro p f hf
    obtain ⟨g, hg, hpieces⟩ := hf
    refine ⟨.ofText "NOT " ++ g.parenthesized, ?_, ?_⟩
    · rw [Predicate.skeleton, predicateFragment_not, hg]
      rfl
    · simp only [parenthesized, pieces_append, hpieces]

/-- **Values stay out of the text**: predicates that differ in nothing but their values become the
same text, with as many parameters. -/
theorem render_eq_of_skeleton_eq {r : Renderer} {p q : Predicate} {out out' : Rendered}
    (h : p.skeleton = q.skeleton) (hp : r.render p = .ok out) (hq : r.render q = .ok out') :
    out.sql = out'.sql ∧ out.params.length = out'.params.length := by
  obtain ⟨f, hf, hsql, hparams⟩ := render_eq_ok_iff.mp hp
  obtain ⟨f', hf', hsql', hparams'⟩ := render_eq_ok_iff.mp hq
  obtain ⟨g, hg, hpieces⟩ := exists_pieces_skeleton hf
  obtain ⟨g', hg', hpieces'⟩ := exists_pieces_skeleton hf'
  -- Both are the pieces of the one skeleton.
  rw [h, hg'] at hg
  obtain rfl := Except.ok.inj hg
  have heq : f.pieces = f'.pieces := hpieces.symm.trans hpieces'
  constructor
  · rw [← String.toList_inj, hsql, hsql', Fragment.text, Fragment.text, heq]
  · rw [hparams, hparams', ← isFull_of_predicateFragment hf, ← isFull_of_predicateFragment hf', heq]

/-- A name that contains a text. -/
def nameContains (searched : String) : Predicate :=
  .comparison ⟨"name", .innerLike, .single (.text searched)⟩

theorem render_nameContains_eq : ∃ out out',
    Renderer.render {} (nameContains "a") = .ok out ∧
      Renderer.render {} (nameContains "' OR 1=1 --") = .ok out' ∧
      out.sql = out'.sql ∧ out.params.length = out'.params.length := by
  have hp : Renderer.render {} (nameContains "a") =
      .ok ⟨"name LIKE $1 ESCAPE '\\'", [.text "%a%"]⟩ := by
    rfl
  have hq : Renderer.render {} (nameContains "' OR 1=1 --") =
      .ok ⟨"name LIKE $1 ESCAPE '\\'", [.text "%' OR 1=1 --%"]⟩ := by
    rfl
  have hs : (nameContains "a").skeleton = (nameContains "' OR 1=1 --").skeleton := by rfl
  have heq := render_eq_of_skeleton_eq hs hp hq
  exact ⟨_, _, hp, hq, heq⟩

end Sql
end RowFilter
