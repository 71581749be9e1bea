import RowFilter.Proofs.Distinct
import RowFilter.Toml.Tree

/-!
# Statements say nothing twice

While a document is read, statements are refused that would open a table or assign a key anew. What
they make up is therefore a table in which, however deep, no two entries have one name, provided
that the values they assign are no different.

Headlines:
* `SaysOnce.toToml`: a draft in which names are different becomes a table in which they are;
* `once_within`: a change inside a table that keeps names different does so in the tables around it;
* **`saysOnce_ofStatements?`**: statements make up a table that says nothing twice.
-/

namespace RowFilter.Toml

/-- No table in the value has two entries of one name. -/
inductive SaysOnce : Toml → Prop where
  | text (s : String) : SaysOnce (.text s)
  | integer (n : Int64) : SaysOnce (.integer n)
  | real (x : Binary64) : SaysOnce (.real x)
  | bool (b : Bool) : SaysOnce (.bool b)
  | moment (s : String) : SaysOnce (.moment s)
  | array {items : List Toml} (values : ∀ t ∈ items, SaysOnce t) : SaysOnce (.array items)
  | table {entries : List (String × Toml)} (names : (entries.map Prod.fst).Nodup)
      (values : ∀ e ∈ entries, SaysOnce e.2) : SaysOnce (.table entries)

namespace Node

/-! ## Entries of a draft -/

/-- No table in the node has two entries of one name. -/
inductive SaysOnce : Node → Prop where
  | value {v : Toml} (h : v.SaysOnce) : SaysOnce (.value v)
  | table {kind : TableKind} {es : List (String × Node)} (names : (es.map Prod.fst).Nodup)
      (nodes : ∀ e ∈ es, SaysOnce e.2) : SaysOnce (.table kind es)
  | tables {before : List (List (String × Node))} {last : List (String × Node)}
      (names : ∀ es ∈ last :: before, (es.map Prod.fst).Nodup)
      (nodes : ∀ es ∈ last :: before, ∀ e ∈ es, SaysOnce e.2) : SaysOnce (.tables before last)

/-- The entries have different names, and no table in them has two of one name. -/
structure Once (es : Entries) : Prop where
  names : (es.map Prod.fst).Nodup
  nodes : ∀ e ∈ es, e.2.SaysOnce

theorem saysOnce_table_iff {kind : TableKind} {es : Entries} :
    (table kind es).SaysOnce ↔ Once es := by
  constructor
  · rintro (_ | ⟨names, nodes⟩)
    exact ⟨names, nodes⟩
  · rintro ⟨names, nodes⟩
    exact .table names nodes

theorem saysOnce_tables_iff {before : List Entries} {last : Entries} :
    (tables before last).SaysOnce ↔ ∀ es ∈ last :: before, Once es := by
  constructor
  · rintro (_ | _ | ⟨names, nodes⟩)
    exact fun es hes => ⟨names es hes, nodes es hes⟩
  · intro h
    exact .tables (fun es hes => (h es hes).names) fun es hes => (h es hes).nodes

variable {name : String} {n : Node} {es : Entries}

theorem map_fst_replace : (replace name n es).map Prod.fst = es.map Prod.fst := by
  induction es with
  | nil => rfl
  | cons e es ih =>
    rw [replace]
    split
    · rfl
    · rw [List.map_cons, List.map_cons, ih]

theorem mem_replace {e : String × Node} (h : e ∈ replace name n es) : e ∈ es ∨ e.2 = n := by
  induction es with
  | nil => cases h
  | cons d es ih =>
    rw [replace] at h
    split at h
    · rcases List.mem_cons.mp h with rfl | h
      · exact .inr rfl
      · exact .inl (List.mem_cons_of_mem _ h)
    · rcases List.mem_cons.mp h with rfl | h
      · exact .inl List.mem_cons_self
      · exact (ih h).imp_left (List.mem_cons_of_mem _)

theorem remove_sublist : (remove name es).Sublist es := by
  induction es with
  | nil => exact .slnil
  | cons e es ih =>
    rw [remove]
    split
    · exact List.sublist_cons_self _ _
    · exact ih.cons_cons _

namespace Once

theorem nil : Once [] := ⟨List.nodup_nil, fun _ h => absurd h List.not_mem_nil⟩

theorem of_lookup (h : Once es) (hn : es.lookup name = some n) : n.SaysOnce :=
  h.nodes _ (mem_of_lookup hn)

/-- A name that has not been used may be used. -/
theorem append (h : Once es) (hnew : es.lookup name = none) (hn : n.SaysOnce) :
    Once (es ++ [(name, n)]) := by
  constructor
  · rw [List.map_append, List.nodup_append]
    refine ⟨h.names, by simp, ?_⟩
    rintro a ha b hb rfl
    rw [List.map_cons, List.map_nil, List.mem_singleton] at hb
    rw [hb] at ha
    exact lookup_eq_none_iff_notMem.mp hnew ha
  · intro e he
    rcases List.mem_append.mp he with he | he
    · exact h.nodes e he
    · rw [List.mem_singleton.mp he]
      exact hn

theorem replace (h : Once es) (hn : n.SaysOnce) : Once (replace name n es) := by
  constructor
  · rw [map_fst_replace]
    exact h.names
  · intro e he
    rcases mem_replace he with he | rfl
    · exact h.nodes e he
    · exact hn

theorem remove (h : Once es) : Once (remove name es) :=
  ⟨h.names.sublist (remove_sublist.map _), fun e he => h.nodes e (remove_sublist.subset he)⟩

/-- Where names are different, a name is gone once it has been removed. -/
theorem lookup_remove (h : Once es) : (Node.remove name es).lookup name = none := by
  rw [lookup_eq_none_iff_notMem]
  have hnames := h.names
  clear h
  induction es with
  | nil => simp [Node.remove]
  | cons e es ih =>
    rw [List.map_cons, List.nodup_cons] at hnames
    rw [Node.remove]
    split
    · rename_i heq
      rw [← heq]
      exact hnames.1
    · rename_i hne
      rw [List.map_cons, List.mem_cons, not_or]
      exact ⟨Ne.symm hne, ih hnames.2⟩

end Once

/-! ## What a draft becomes -/

theorem finished_eq_map (es : Entries) : finished es = es.map fun e => (e.1, e.2.toToml) := by
  induction es with
  | nil => rfl
  | cons e es ih => rw [finished, ih, List.map_cons]

theorem finishedAll_eq_map (all : List Entries) :
    finishedAll all = all.map fun es => .table (finished es) := by
  induction all with
  | nil => rfl
  | cons es all ih => rw [finishedAll, ih, List.map_cons]

theorem saysOnce_finished {es : Entries} (names : (es.map Prod.fst).Nodup)
    (values : ∀ e ∈ es, e.2.toToml.SaysOnce) : (Toml.table (finished es)).SaysOnce := by
  rw [finished_eq_map]
  refine .table ?_ ?_
  · rw [List.map_map]
    exact names
  · rintro _ hmem
    obtain ⟨e, he, rfl⟩ := List.mem_map.mp hmem
    exact values e he

theorem SaysOnce.toToml {n : Node} (h : n.SaysOnce) : n.toToml.SaysOnce := by
  induction h with
  | value h => exact h
  | table names _ ih => exact saysOnce_finished names ih
  | @tables before last names _ ih =>
    refine .array fun t ht => ?_
    rw [finishedAll_eq_map, List.mem_append, List.mem_map, List.mem_singleton] at ht
    rcases ht with ⟨es, hes, rfl⟩ | rfl
    · have hes := List.mem_cons_of_mem last hes
      exact saysOnce_finished (names es hes) (ih es hes)
    · exact saysOnce_finished (names _ List.mem_cons_self) (ih _ List.mem_cons_self)

theorem Once.finished {es : Entries} (h : Once es) : (Toml.table (finished es)).SaysOnce :=
  saysOnce_finished h.names fun e he => (h.nodes e he).toToml

end Node

/-! ## Statements -/

section Statements

open Node (Once)

variable {es fs : Entries} {kind : TableKind}

/-- **A change inside a table** that keeps names different keeps them so in the tables around it. -/
theorem once_within {dotted : Bool} {change : TableKind → Entries → Option Entries}
    (hchange : ∀ {kind es fs}, Once es → change kind es = some fs → Once fs) {path : List String}
    (hes : Once es) (h : within dotted change path kind es = some fs) : Once fs := by
  induction path generalizing kind es fs with
  | nil => exact hchange hes h
  | cons name path ih =>
    rw [within] at h
    -- the next table on the path is made up, or is the last of a list, or is there already
    split at h
    · rename_i hnew
      obtain ⟨inner, hinner, rfl⟩ := Option.map_eq_some_iff.mp h
      exact hes.append hnew (Node.saysOnce_table_iff.mpr (ih .nil hinner))
    · cases h
    · rename_i before last hfound
      obtain ⟨inner, hinner, rfl⟩ := Option.map_eq_some_iff.mp h
      have htables := Node.saysOnce_tables_iff.mp (hes.of_lookup hfound)
      rw [List.forall_mem_cons] at htables
      refine hes.replace (Node.saysOnce_tables_iff.mpr ?_)
      rw [List.forall_mem_cons]
      exact ⟨ih htables.1 hinner, htables.2⟩
    · rename_i hfound
      split at h
      · cases h
      · obtain ⟨inner, hinner, rfl⟩ := Option.map_eq_some_iff.mp h
        have htable := Node.saysOnce_table_iff.mp (hes.of_lookup hfound)
        exact hes.replace (Node.saysOnce_table_iff.mpr (ih htable hinner))

theorem once_assignHere {isDotted : Bool} {name : String} {v : Toml} (hv : v.SaysOnce)
    (hes : Once es) (h : assignHere isDotted name v kind es = some fs) : Once fs := by
  unfold assignHere at h
  split at h
  · cases h
  · split at h
    · cases h
    · rename_i hnew
      obtain rfl := Option.some.inj h
      exact hes.append hnew (.value hv)

theorem once_assign {k : Key} {v : Toml} (hv : v.SaysOnce) (hes : Once es)
    (h : assign k v kind es = some fs) : Once fs :=
  once_within (once_assignHere hv) hes h

theorem once_openHere {name : String} (hes : Once es) (h : openHere name kind es = some fs) :
    Once fs := by
  unfold openHere at h
  split at h
  · rename_i hnew
    obtain rfl := Option.some.inj h
    exact hes.append hnew (Node.saysOnce_table_iff.mpr .nil)
  · rename_i hfound
    obtain rfl := Option.some.inj h
    have hinner := Node.saysOnce_table_iff.mp (hes.of_lookup hfound)
    exact hes.remove.append hes.lookup_remove (Node.saysOnce_table_iff.mpr hinner)
  · cases h

theorem once_extendHere {name : String} (hes : Once es) (h : extendHere name kind es = some fs) :
    Once fs := by
  unfold extendHere at h
  split at h
  · rename_i hnew
    obtain rfl := Option.some.inj h
    refine hes.append hnew (Node.saysOnce_tables_iff.mpr ?_)
    simp [Once.nil]
  · rename_i before last hfound
    obtain rfl := Option.some.inj h
    have htables := Node.saysOnce_tables_iff.mp (hes.of_lookup hfound)
    refine hes.replace (Node.saysOnce_tables_iff.mpr ?_)
    intro inner hinner
    rw [List.mem_cons, List.mem_append, List.mem_singleton] at hinner
    rcases hinner with rfl | hinner | rfl
    · exact .nil
    · exact htables _ (List.mem_cons_of_mem _ hinner)
    · exact htables _ List.mem_cons_self
  · cases h

/-- The values that a statement assigns say nothing twice. -/
def Statement.SaysOnce : Statement → Prop
  | .assign _ v => v.SaysOnce
  | .header _ => True
  | .entry _ => True

theorem once_add {d e : Draft} {s : Statement} (hs : s.SaysOnce) (hd : Once d.entries)
    (h : d.add s = some e) : Once e.entries := by
  cases s with
  | assign k v =>
    obtain ⟨inner, hinner, rfl⟩ := Option.map_eq_some_iff.mp h
    exact once_within (once_assign hs) hd hinner
  | header k =>
    obtain ⟨inner, hinner, rfl⟩ := Option.map_eq_some_iff.mp h
    exact once_within once_openHere hd hinner
  | entry k =>
    obtain ⟨inner, hinner, rfl⟩ := Option.map_eq_some_iff.mp h
    exact once_within once_extendHere hd hinner

theorem once_foldlM_add {statements : List Statement} (hs : ∀ s ∈ statements, s.SaysOnce)
    {d e : Draft} (hd : Once d.entries) (h : statements.foldlM Draft.add d = some e) :
    Once e.entries := by
  induction statements generalizing d with
  | nil =>
    obtain rfl := Option.some.inj h
    exact hd
  | cons s statements ih =>
    rw [List.forall_mem_cons] at hs
    rw [List.foldlM_cons] at h
    obtain ⟨f, hf, h⟩ := Option.bind_eq_some_iff.mp h
    exact ih hs.2 (once_add hs.1 hd hf) h

/-- **Statements make up a table** that says nothing twice, if the values they assign do not. -/
theorem saysOnce_ofStatements? {statements : List Statement} (hs : ∀ s ∈ statements, s.SaysOnce)
    {t : Toml} (h : ofStatements? statements = some t) : t.SaysOnce := by
  obtain ⟨d, hd, rfl⟩ := Option.map_eq_some_iff.mp h
  exact (once_foldlM_add hs .nil hd).finished

end Statements

end RowFilter.Toml
