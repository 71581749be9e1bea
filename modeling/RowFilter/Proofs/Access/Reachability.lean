import Mathlib.Data.List.Nodup
import Mathlib.Data.List.Perm.Subperm
import Mathlib.Logic.Relation
import RowFilter.Access.Hierarchy

/-!
# What a subtree lists

`subtree` walks the edges of a hierarchy with a queue and a bounded number of steps. The invariant
`Walked` says that what was met is reachable and met once, and that whatever lies directly below a
department that is done was met too. Each step keeps it, and the bound is never what ends the walk:
every department met but the first is the end of an edge, so the queue has run dry by then. `Walks`
is the walk without a bound, and what its steps keep holds of a subtree.

Headlines:
* `Walked.step`: one department taken from the queue keeps the invariant;
* `walks_subtree`: the walk without a bound comes to an end, with the subtree;
* `mem_subtree`: a subtree lists exactly the departments reachable along the edges.
-/

namespace RowFilter.Access.Hierarchy

/-- A department lies directly below another. -/
def Below (h : Hierarchy) (parent child : Id) : Prop := (parent, child) ∈ h.edges

/-- A department is another one or reachable from it along the edges. -/
def Reaches (h : Hierarchy) : Id → Id → Prop := Relation.ReflTransGen h.Below

theorem mem_children_iff_below {h : Hierarchy} {parent child : Id} :
    child ∈ h.children parent ↔ h.Below parent child :=
  mem_children

/-! ## The queue -/

theorem mem_enqueue {done queue ids : List Id} {id : Id} :
    id ∈ enqueue done queue ids ↔ id ∈ queue ∨ id ∈ ids ∧ id ∉ done := by
  induction ids generalizing queue with
  | nil => simp [enqueue]
  | cons x ids ih =>
    unfold enqueue
    split
    · rename_i hx
      rw [Bool.or_eq_true, List.contains_iff_mem, List.contains_iff_mem] at hx
      rw [ih, List.mem_cons]
      constructor
      · rintro (h | ⟨h, hd⟩)
        · exact Or.inl h
        · exact Or.inr ⟨Or.inr h, hd⟩
      · rintro (h | ⟨rfl | h, hd⟩)
        · exact Or.inl h
        · exact Or.inl (hx.resolve_left hd)
        · exact Or.inr ⟨h, hd⟩
    · rename_i hx
      rw [Bool.or_eq_true, List.contains_iff_mem, List.contains_iff_mem, not_or] at hx
      rw [ih, List.mem_cons, List.mem_append, List.mem_singleton]
      constructor
      · rintro ((h | rfl) | ⟨h, hd⟩)
        · exact Or.inl h
        · exact Or.inr ⟨Or.inl rfl, hx.1⟩
        · exact Or.inr ⟨Or.inr h, hd⟩
      · rintro (h | ⟨rfl | h, hd⟩)
        · exact Or.inl (Or.inl h)
        · exact Or.inl (Or.inr rfl)
        · exact Or.inr ⟨h, hd⟩

theorem nodup_enqueue {done queue : List Id} (hn : (done ++ queue).Nodup) (ids : List Id) :
    (done ++ enqueue done queue ids).Nodup := by
  induction ids generalizing queue with
  | nil => exact hn
  | cons x ids ih =>
    unfold enqueue
    split
    · exact ih hn
    · rename_i hx
      rw [Bool.or_eq_true, List.contains_iff_mem, List.contains_iff_mem, ← List.mem_append] at hx
      refine ih ?_
      rw [← List.append_assoc]
      exact hn.append (List.nodup_singleton x) (List.disjoint_singleton.mpr hx)

/-! ## The invariant -/

/-- What holds of the departments done and waiting throughout a walk from a department. -/
structure Walked (h : Hierarchy) (root : Id) (done queue : List Id) : Prop where
  nodup : (done ++ queue).Nodup
  root_mem : root ∈ done ++ queue
  reaches : ∀ id ∈ done ++ queue, h.Reaches root id
  /-- What lies directly below a department that is done was met. -/
  closed : ∀ id ∈ done, ∀ child, h.Below id child → child ∈ done ++ queue

theorem Walked.start (h : Hierarchy) (root : Id) : h.Walked root [] [root] where
  nodup := List.nodup_singleton root
  root_mem := List.mem_singleton_self root
  reaches _ hid := List.mem_singleton.mp hid ▸ Relation.ReflTransGen.refl
  closed _ hid := absurd hid List.not_mem_nil

/-- **One step**: the first department waiting is done, and those directly below it wait. -/
theorem Walked.step {h : Hierarchy} {root id : Id} {done queue : List Id}
    (hw : h.Walked root done (id :: queue)) :
    h.Walked root (done ++ [id]) (enqueue (done ++ [id]) queue (h.children id)) := by
  have hsplit : done ++ id :: queue = (done ++ [id]) ++ queue := by simp
  have hold : ∀ x ∈ done ++ id :: queue,
      x ∈ (done ++ [id]) ++ enqueue (done ++ [id]) queue (h.children id) := by
    intro x hx
    rw [hsplit, List.mem_append] at hx
    exact List.mem_append.mpr (hx.imp_right fun hq => mem_enqueue.mpr (Or.inl hq))
  refine ⟨nodup_enqueue (hsplit ▸ hw.nodup) _, hold _ hw.root_mem, fun x hx => ?_,
    fun x hx child hc => ?_⟩
  · rcases List.mem_append.mp hx with hx | hx
    · exact hw.reaches x (hsplit ▸ List.mem_append_left _ hx)
    · rcases mem_enqueue.mp hx with hx | ⟨hx, -⟩
      · exact hw.reaches x (hsplit ▸ List.mem_append_right _ hx)
      · exact (hw.reaches id (by simp)).tail (mem_children_iff_below.mp hx)
  · rcases List.mem_append.mp hx with hx | hx
    · exact hold child (hw.closed x hx child hc)
    · obtain rfl := List.mem_singleton.mp hx
      by_cases hd : child ∈ done ++ [x]
      · exact List.mem_append_left _ hd
      · exact List.mem_append_right _
          (mem_enqueue.mpr (Or.inr ⟨mem_children_iff_below.mpr hc, hd⟩))

/-- What is reachable is the start or the end of an edge. -/
theorem Reaches.eq_or_mem {h : Hierarchy} {root id : Id} (hr : h.Reaches root id) :
    id ∈ root :: h.edges.map Prod.snd := by
  rcases Relation.ReflTransGen.cases_tail hr with rfl | ⟨parent, -, hb⟩
  · exact List.mem_cons_self
  · exact List.mem_cons_of_mem _ (List.mem_map.mpr ⟨(parent, id), hb, rfl⟩)

/-- There are never more departments met than edges and one. -/
theorem Walked.length_le {h : Hierarchy} {root : Id} {done queue : List Id}
    (hw : h.Walked root done queue) : (done ++ queue).length ≤ h.edges.length + 1 := by
  have hsub : done ++ queue ⊆ root :: h.edges.map Prod.snd :=
    fun x hx => (hw.reaches x hx).eq_or_mem
  simpa using (List.subperm_of_subset hw.nodup hsub).length_le

/-! ## Whole walks -/

/-- Where a walk ends that goes on, without a bound, for as long as a department is waiting. -/
inductive Walks (h : Hierarchy) : List Id → List Id → List Id → Prop where
  | rest (done : List Id) : Walks h done [] done
  | take {done queue out : List Id} {id : Id}
      (hw : Walks h (done ++ [id]) (enqueue (done ++ [id]) queue (h.children id)) out) :
      Walks h done (id :: queue) out

/-- What every step of a walk keeps still holds where the walk ends. -/
theorem Walks.keeps {h : Hierarchy} {Inv : List Id → List Id → Prop}
    (step : ∀ {done queue : List Id} {id : Id}, Inv done (id :: queue) →
      Inv (done ++ [id]) (enqueue (done ++ [id]) queue (h.children id)))
    {done queue out : List Id} (hw : h.Walks done queue out) (hi : Inv done queue) :
    Inv out [] := by
  induction hw with
  | rest done => exact hi
  | take _ ih => exact ih (step hi)

/-- **The bound is never what ends a walk**: as many steps as there are departments left to meet
lead to where the walk without a bound ends. -/
theorem Walked.walks {h : Hierarchy} {root : Id} :
    ∀ {steps : Nat} {done queue : List Id}, h.Walked root done queue →
      done.length + steps = h.edges.length + 1 → h.Walks done queue (h.walk steps done queue)
  | 0, done, queue, hw, hl => by
    have hle := hw.length_le
    rw [List.length_append] at hle
    obtain rfl : queue = [] := List.eq_nil_of_length_eq_zero (by omega)
    simpa [Hierarchy.walk] using Walks.rest (h := h) done
  | _ + 1, done, [], _, _ => by
    simpa [Hierarchy.walk] using Walks.rest (h := h) done
  | steps + 1, done, id :: queue, hw, hl => by
    rw [Hierarchy.walk]
    exact .take (Walked.walks hw.step (by
      simp only [List.length_append, List.length_singleton]
      omega))

theorem walks_subtree (h : Hierarchy) (root : Id) : h.Walks [] [root] (h.subtree root) :=
  (Walked.start h root).walks (by simp)

theorem walked_subtree (h : Hierarchy) (root : Id) : h.Walked root (h.subtree root) [] :=
  (walks_subtree h root).keeps Walked.step (Walked.start h root)

/-- **A subtree lists exactly what is reachable**, cycles or not. -/
theorem mem_subtree {h : Hierarchy} {root id : Id} : id ∈ h.subtree root ↔ h.Reaches root id := by
  have hw := walked_subtree h root
  constructor
  · intro hid
    exact hw.reaches id (List.mem_append_left _ hid)
  · intro hr
    induction hr with
    | refl => simpa using hw.root_mem
    | tail _ hb ih => simpa using hw.closed _ ih _ hb

end RowFilter.Access.Hierarchy
