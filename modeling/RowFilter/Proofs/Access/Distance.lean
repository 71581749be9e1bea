import Mathlib.Order.Lattice.Nat
import RowFilter.Proofs.Access.Reachability

/-!
# Subtrees list the nearest first

`Path` counts the edges of a way from one department to another, and `distance` is the fewest that
lead there. The departments that are waiting in a walk are ordered by distance and lie within one
edge of each other. What is new below the first of them lies one edge beyond it, since whatever is
nearer was met already, so it belongs behind all that was met so far.

Headlines:
* `Layered.mem_done_of_path`: what is nearer than the first department waiting is done;
* `Layered.distance_eq`: what is new below that department is one edge farther than it;
* `Layered.step`: a step keeps the order;
* **`subtree_breadth_first`**: whatever edges are registered, the walk from a department ends, with
  each department that can be reached listed once and none before a nearer one.
-/

namespace RowFilter.Access.Hierarchy

/-! ## Registering departments -/

/-- The hierarchy in which departments were registered one below another, in turn. -/
def registered (edges : List (Id × Id)) : Hierarchy :=
  edges.foldl (fun h e => h.withChild e.1 e.2) {}

theorem edges_foldl_withChild (edges : List (Id × Id)) (h : Hierarchy) :
    (edges.foldl (fun h e => h.withChild e.1 e.2) h).edges = h.edges ++ edges := by
  induction edges generalizing h with
  | nil => exact (List.append_nil _).symm
  | cons e edges ih => rw [List.foldl_cons, ih, withChild, List.append_assoc, List.singleton_append]

@[simp] theorem edges_registered (edges : List (Id × Id)) : (registered edges).edges = edges :=
  edges_foldl_withChild edges {}

/-! ## Distance -/

/-- A way along the edges to a department, of so many edges. -/
inductive Path (h : Hierarchy) (start : Id) : Nat → Id → Prop where
  | here : Path h start 0 start
  | step {n : Nat} {parent child : Id} (hp : Path h start n parent) (hb : h.Below parent child) :
      Path h start (n + 1) child

/-- The fewest edges that lead from one department to another. -/
noncomputable def distance (h : Hierarchy) (start id : Id) : Nat := sInf {n | h.Path start n id}

section Distance

variable {h : Hierarchy} {start id parent child : Id} {n : Nat}

theorem Reaches.exists_path (hr : h.Reaches start id) : ∃ n, h.Path start n id := by
  induction hr with
  | refl => exact ⟨0, .here⟩
  | tail _ hb ih =>
    obtain ⟨n, hp⟩ := ih
    exact ⟨n + 1, hp.step hb⟩

theorem distance_le (hp : h.Path start n id) : h.distance start id ≤ n :=
  Nat.sInf_le hp

theorem Reaches.path_distance (hr : h.Reaches start id) :
    h.Path start (h.distance start id) id :=
  Nat.sInf_mem hr.exists_path

/-- One edge leads at most one edge farther. -/
theorem Reaches.distance_le_succ (hr : h.Reaches start parent) (hb : h.Below parent child) :
    h.distance start child ≤ h.distance start parent + 1 :=
  distance_le (hr.path_distance.step hb)

end Distance

/-! ## The order of the queue -/

/-- What holds of the distances of the departments done and waiting throughout a walk. -/
structure Layered (h : Hierarchy) (root : Id) (done queue : List Id) : Prop
    extends h.Walked root done queue where
  ordered : (done ++ queue).Pairwise fun a b => h.distance root a ≤ h.distance root b
  /-- The departments waiting lie within one edge of each other. -/
  within : ∀ a ∈ queue, ∀ b ∈ queue, h.distance root a ≤ h.distance root b + 1

theorem prefix_enqueue (done queue ids : List Id) : queue <+: enqueue done queue ids := by
  induction ids generalizing queue with
  | nil => exact List.prefix_rfl
  | cons id ids ih =>
    unfold enqueue
    split
    · exact ih queue
    · exact (List.prefix_append queue [id]).trans (ih _)

namespace Layered

variable {h : Hierarchy} {root id : Id} {done queue : List Id}

theorem start (h : Hierarchy) (root : Id) : h.Layered root [] [root] where
  toWalked := Walked.start h root
  ordered := List.pairwise_singleton _ root
  within a ha b hb := by
    rw [List.mem_singleton.mp ha, List.mem_singleton.mp hb]
    exact Nat.le_succ _

/-- No department done is farther than the first one waiting. -/
theorem distance_le_of_mem_done (hl : h.Layered root done (id :: queue)) {x : Id}
    (hx : x ∈ done) : h.distance root x ≤ h.distance root id :=
  (List.pairwise_append.mp hl.ordered).2.2 x hx id List.mem_cons_self

/-- No other department waiting is nearer than the first one. -/
theorem distance_le_of_mem_queue (hl : h.Layered root done (id :: queue)) {x : Id}
    (hx : x ∈ queue) : h.distance root id ≤ h.distance root x :=
  List.rel_of_pairwise_cons (List.pairwise_append.mp hl.ordered).2.1 hx

/-- Nothing met lies more than one edge beyond the first department waiting. -/
theorem distance_le_of_mem (hl : h.Layered root done (id :: queue)) {x : Id}
    (hx : x ∈ done ++ id :: queue) : h.distance root x ≤ h.distance root id + 1 := by
  rcases List.mem_append.mp hx with hx | hx
  · exact Nat.le_succ_of_le (hl.distance_le_of_mem_done hx)
  · exact hl.within x hx id List.mem_cons_self

/-- **What is nearer** than the first department waiting is done. The induction follows a way
there: each department on it was met, being below one that is done, and is too near to wait. -/
theorem mem_done_of_path (hl : h.Layered root done (id :: queue)) {n : Nat} {x : Id}
    (hp : h.Path root n x) (hn : n < h.distance root id) : x ∈ done := by
  have hnear : ∀ {y : Id}, y ∈ done ++ id :: queue → h.distance root y < h.distance root id →
      y ∈ done := by
    intro y hy hlt
    rcases List.mem_append.mp hy with hy | hy
    · exact hy
    · rcases List.mem_cons.mp hy with rfl | hy
      · omega
      · have hle := hl.distance_le_of_mem_queue hy
        omega
  induction hp with
  | here => exact hnear hl.root_mem (Nat.lt_of_le_of_lt (distance_le .here) hn)
  | step hp hb ih =>
    exact hnear (hl.closed _ (ih (by omega)) _ hb)
      (Nat.lt_of_le_of_lt (distance_le (hp.step hb)) hn)

/-- **What is new** below the first department waiting is one edge farther than it. -/
theorem distance_eq (hl : h.Layered root done (id :: queue)) {child : Id}
    (hb : h.Below id child) (hnew : child ∉ done ++ id :: queue) :
    h.distance root child = h.distance root id + 1 := by
  have hr : h.Reaches root id := hl.reaches id (by simp)
  have hle := hr.distance_le_succ hb
  have hp := Reaches.path_distance (hr.tail hb)
  by_contra hne
  generalize h.distance root child = d at hle hp hne
  -- A shorter way would come through a department that is done, and all below that were met.
  cases hp with
  | here => exact hnew hl.root_mem
  | step hp hb' => exact hnew (hl.closed _ (hl.mem_done_of_path hp (by omega)) _ hb')

/-- **One step** keeps the order. -/
theorem step (hl : h.Layered root done (id :: queue)) :
    h.Layered root (done ++ [id]) (enqueue (done ++ [id]) queue (h.children id)) := by
  have hw := hl.toWalked.step
  obtain ⟨fresh, hfresh⟩ := prefix_enqueue (done ++ [id]) queue (h.children id)
  have hsplit : (done ++ [id]) ++ enqueue (done ++ [id]) queue (h.children id) =
      (done ++ id :: queue) ++ fresh := by
    simp [← hfresh]
  have hnew : ∀ x ∈ fresh, x ∉ done ++ id :: queue := fun x hx hold =>
    List.disjoint_of_nodup_append (hsplit ▸ hw.nodup) hold hx
  have hdist : ∀ x ∈ fresh, h.distance root x = h.distance root id + 1 := by
    intro x hx
    have hmem : x ∈ enqueue (done ++ [id]) queue (h.children id) :=
      hfresh ▸ List.mem_append_right _ hx
    rcases mem_enqueue.mp hmem with hq | ⟨hc, -⟩
    · exact absurd (List.mem_append_right _ (List.mem_cons_of_mem _ hq)) (hnew x hx)
    · exact hl.distance_eq (mem_children_iff_below.mp hc) (hnew x hx)
  have hbetween : ∀ x ∈ enqueue (done ++ [id]) queue (h.children id),
      h.distance root id ≤ h.distance root x ∧ h.distance root x ≤ h.distance root id + 1 := by
    intro x hx
    rw [← hfresh, List.mem_append] at hx
    rcases hx with hx | hx
    · exact ⟨hl.distance_le_of_mem_queue hx, hl.distance_le_of_mem (by simp [hx])⟩
    · have hd := hdist x hx
      omega
  refine { toWalked := hw, ordered := ?_, within := fun a ha b hb => ?_ }
  · rw [hsplit, List.pairwise_append]
    refine ⟨hl.ordered, List.pairwise_of_forall_mem_list fun a ha b hb => ?_, fun a ha b hb => ?_⟩
    · exact Nat.le_of_eq ((hdist a ha).trans (hdist b hb).symm)
    · rw [hdist b hb]
      exact hl.distance_le_of_mem ha
  · exact (hbetween a ha).2.trans (Nat.succ_le_succ (hbetween b hb).1)

end Layered

/-! ## Subtrees -/

theorem Walks.unique {h : Hierarchy} {done queue out out' : List Id}
    (hw : h.Walks done queue out) (hw' : h.Walks done queue out') : out = out' := by
  induction hw with
  | rest done =>
    cases hw'
    rfl
  | take _ ih =>
    cases hw' with
    | take hw' => exact ih hw'

/-- The list is a department with all below it, the nearest first. -/
structure IsSubtree (h : Hierarchy) (root : Id) (ids : List Id) : Prop where
  head : ids.head? = some root
  nodup : ids.Nodup
  mem_iff : ∀ id, id ∈ ids ↔ h.Reaches root id
  ordered : ids.Pairwise fun a b => h.distance root a ≤ h.distance root b

theorem isSubtree_subtree (h : Hierarchy) (root : Id) : h.IsSubtree root (h.subtree root) := by
  have hl : h.Layered root (h.subtree root) [] :=
    (walks_subtree h root).keeps Layered.step (Layered.start h root)
  exact ⟨head_subtree h root, by simpa using hl.nodup, fun _ => mem_subtree,
    by simpa using hl.ordered⟩

/-- **Subtrees are right on every graph**: whatever edges are registered, cycles and repeated edges
among them, the walk from a department that goes on for as long as one is waiting comes to an end,
and it ends with the subtree. That lists the department first and each one that can be reached from
it once, in the order of their distance. -/
theorem subtree_breadth_first (edges : List (Id × Id)) (root : Id) :
    (∀ ids, (registered edges).Walks [] [root] ids ↔ ids = (registered edges).subtree root) ∧
    ((registered edges).subtree root).length ≤ edges.length + 1 ∧
    (∀ parent child, (registered edges).Below parent child ↔ (parent, child) ∈ edges) ∧
    (registered edges).IsSubtree root ((registered edges).subtree root) := by
  have hends := walks_subtree (registered edges) root
  refine ⟨fun ids => ⟨fun hw => hw.unique hends, fun heq => heq ▸ hends⟩, ?_, fun _ _ => ?_,
    isSubtree_subtree _ root⟩
  · simpa using (walked_subtree (registered edges) root).length_le
  · rw [Below, edges_registered]

/-- A department may be registered below itself, twice below another, and around a cycle. -/
example : (registered [(.int 1, .int 2), (.int 1, .int 3), (.int 2, .int 4), (.int 1, .int 2),
    (.int 3, .int 3), (.int 4, .int 1)]).subtree (.int 2) = [.int 2, .int 4, .int 1, .int 3] := by
  decide

end RowFilter.Access.Hierarchy
