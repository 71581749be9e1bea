import RowFilter.Access.Grant

/-!
# Department hierarchies

A hierarchy is a list of edges from a department to one directly below it, in the order in which
they were registered. `subtree` lists a department and all below it, nearest first: each department
met is listed once, so a cycle ends the walk and not the other way round.

Headlines:
* `mem_children`: the children of a department are the ends of its edges;
* `head_subtree`: a subtree begins with its own department.
-/

namespace RowFilter.Access

/-- Edges from a department to one directly below it (`StaticOrgHierarchy`). -/
structure Hierarchy where
  edges : List (Id × Id) := []

namespace Hierarchy

/-- The hierarchy with one more edge (`StaticOrgHierarchy::with_child`). -/
def withChild (h : Hierarchy) (parent child : Id) : Hierarchy :=
  ⟨h.edges ++ [(parent, child)]⟩

/-- The departments directly below one, in order of registration. -/
def children (h : Hierarchy) (id : Id) : List Id :=
  h.edges.filterMap fun e => if e.1 = id then some e.2 else none

/-- The children of a department are the ends of its edges. -/
theorem mem_children {h : Hierarchy} {parent child : Id} :
    child ∈ h.children parent ↔ (parent, child) ∈ h.edges := by
  simp only [children, List.mem_filterMap, Prod.exists, Option.ite_none_right_eq_some,
    Option.some.injEq]
  constructor
  · rintro ⟨a, b, hm, rfl, rfl⟩; exact hm
  · intro hm; exact ⟨parent, child, hm, rfl, rfl⟩

/-- Departments waiting, with those of a list that are new added behind them. -/
def enqueue (done queue : List Id) : List Id → List Id
  | [] => queue
  | id :: ids =>
    if done.contains id || queue.contains id then enqueue done queue ids
    else enqueue done (queue ++ [id]) ids

/-- The departments done, then those reached from the ones waiting, in order; `steps` bounds how
many are taken from the queue. -/
def walk (h : Hierarchy) : Nat → List Id → List Id → List Id
  | 0, done, queue => done ++ queue
  | _ + 1, done, [] => done
  | steps + 1, done, id :: queue =>
    h.walk steps (done ++ [id]) (enqueue (done ++ [id]) queue (h.children id))

/-- A department and all below it, nearest first (`StaticOrgHierarchy::subtree`). Every department
but the first is the end of an edge, so there are never more of them than edges and one. -/
def subtree (h : Hierarchy) (id : Id) : List Id := h.walk (h.edges.length + 1) [] [id]

/-- What is done stays at the front. -/
theorem walk_prefix (h : Hierarchy) (steps : Nat) (done queue : List Id) :
    ∃ rest, h.walk steps done queue = done ++ rest := by
  induction steps generalizing done queue with
  | zero => exact ⟨queue, rfl⟩
  | succ n ih =>
    cases queue with
    | nil => exact ⟨[], by simp [walk]⟩
    | cons id queue =>
      obtain ⟨rest, hr⟩ := ih (done ++ [id]) (enqueue (done ++ [id]) queue (h.children id))
      exact ⟨id :: rest, by simp [walk, hr]⟩

/-- A subtree begins with its own department. -/
theorem head_subtree (h : Hierarchy) (id : Id) : (h.subtree id).head? = some id := by
  obtain ⟨rest, hr⟩ := walk_prefix h h.edges.length [id] (enqueue [id] [] (h.children id))
  simp [subtree, walk, hr]

end Hierarchy
end RowFilter.Access
