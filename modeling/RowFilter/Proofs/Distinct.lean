import Mathlib.Data.List.Induction
import Mathlib.Data.List.Nodup
import Mathlib.Data.Set.Function

/-!
# Lists with each item once

`FirstOccurrences` says what is left of a list when each of its items is kept where it occurs first.
`eraseDups` leaves exactly that. It goes through a list from the left, so it is followed from the
right: whether the last item is kept depends on those before it, which it changes nothing about.

Headlines:
* `eraseDups_concat`: the last item is kept unless it occurs before;
* `eraseDups_map_of_injOn`: items that get different names are left out alike under their names;
* `firstOccurrences_eraseDups` and `FirstOccurrences.eq_eraseDups`: `eraseDups` keeps the first
  occurrences, and nothing else does;
* `FirstOccurrences.exists_cons`: what is kept begins with the item that the list begins with;
* `lookup_of_mem`: where each name is used once, every entry is found under its name.
-/

namespace RowFilter

variable {α β : Type} [DecidableEq α] [DecidableEq β]

/-- One more item is kept at the end, unless it is there already. -/
theorem eraseDups_concat (items : List α) (a : α) :
    (items ++ [a]).eraseDups = if a ∈ items then items.eraseDups else items.eraseDups ++ [a] := by
  rw [List.eraseDups_append]
  by_cases ha : a ∈ items
  · simp [List.removeAll, ha]
  · simp [List.removeAll, ha, List.eraseDups_cons]

/-- Whether items are the same is not changed by naming them, if different ones get different
names. -/
theorem eraseDups_map_of_injOn {f : α → β} {items : List α} (hf : Set.InjOn f {a | a ∈ items}) :
    (items.map f).eraseDups = items.eraseDups.map f := by
  induction items using List.reverseRecOn with
  | nil => rfl
  | append_singleton items a ih =>
    have hbefore : ∀ b ∈ items, b ∈ items ++ [a] := fun b => List.mem_append_left [a]
    have hlast : a ∈ items ++ [a] := List.mem_append_right items (List.mem_singleton_self a)
    rw [List.map_append, List.map_singleton, eraseDups_concat, eraseDups_concat,
      ih (hf.mono hbefore)]
    by_cases ha : a ∈ items
    · rw [if_pos (List.mem_map_of_mem ha), if_pos ha]
    · have hname : f a ∉ items.map f := by
        intro hmem
        obtain ⟨b, hb, heq⟩ := List.mem_map.mp hmem
        exact ha (hf (hbefore b hb) hlast heq ▸ hb)
      rw [if_neg hname, if_neg ha, List.map_append, List.map_singleton]

theorem eraseDups_map {f : α → β} (hf : Function.Injective f) (items : List α) :
    (items.map f).eraseDups = items.eraseDups.map f :=
  eraseDups_map_of_injOn hf.injOn

/-- What is left of a list when each item is kept where it occurs first. -/
structure FirstOccurrences (items kept : List α) : Prop where
  nodup : kept.Nodup
  mem_iff : ∀ a, a ∈ kept ↔ a ∈ items
  /-- What is kept earlier occurs earlier. -/
  ordered : kept.Pairwise fun a b => items.idxOf a < items.idxOf b

theorem pairwise_eraseDups (items : List α) :
    items.eraseDups.Pairwise fun a b => items.idxOf a < items.idxOf b := by
  induction items using List.reverseRecOn with
  | nil => exact .nil
  | append_singleton items x ih =>
    -- The items before the last one keep the places where they occur first.
    have hbefore : ∀ a ∈ items.eraseDups, (items ++ [x]).idxOf a = items.idxOf a := fun a ha =>
      List.idxOf_append_of_mem (List.mem_eraseDups.mp ha)
    have hkept : items.eraseDups.Pairwise fun a b =>
        (items ++ [x]).idxOf a < (items ++ [x]).idxOf b :=
      ih.imp_of_mem fun ha hb hlt => by rwa [hbefore _ ha, hbefore _ hb]
    rw [eraseDups_concat]
    split
    · exact hkept
    · rename_i hx
      refine List.pairwise_append.mpr ⟨hkept, List.pairwise_singleton _ x, fun a ha b hb => ?_⟩
      obtain rfl := List.mem_singleton.mp hb
      rw [hbefore a ha, List.idxOf_append_of_notMem hx]
      exact Nat.lt_add_right _ (List.idxOf_lt_length_of_mem (List.mem_eraseDups.mp ha))

/-- **`eraseDups`** keeps the first occurrences. -/
theorem firstOccurrences_eraseDups (items : List α) : FirstOccurrences items items.eraseDups where
  nodup := (pairwise_eraseDups items).imp fun hlt heq => absurd hlt (by simp [heq])
  mem_iff _ := List.mem_eraseDups
  ordered := pairwise_eraseDups items

namespace FirstOccurrences

variable {items kept : List α}

/-- Nothing else is left than what `eraseDups` leaves. -/
theorem eq_eraseDups (h : FirstOccurrences items kept) : kept = items.eraseDups := by
  have hall := firstOccurrences_eraseDups items
  have hperm : kept.Perm items.eraseDups :=
    (List.perm_ext_iff_of_nodup h.nodup hall.nodup).mpr fun a => by rw [h.mem_iff, hall.mem_iff]
  exact hperm.eq_of_pairwise (fun a b _ _ hab hba => absurd hab (Nat.lt_asymm hba)) h.ordered
    hall.ordered

theorem eq_nil_iff (h : FirstOccurrences items kept) : kept = [] ↔ items = [] := by
  simp only [List.eq_nil_iff_forall_not_mem, h.mem_iff]

/-- **What is kept begins** with the item that the list begins with. -/
theorem exists_cons {a : α} (h : FirstOccurrences (a :: items) kept) :
    ∃ rest, kept = a :: rest := by
  obtain ⟨b, rest, rfl⟩ := List.exists_cons_of_ne_nil
    (mt h.eq_nil_iff.mp (List.cons_ne_nil a items))
  have ha : a ∈ b :: rest := (h.mem_iff a).mpr List.mem_cons_self
  rcases List.mem_cons.mp ha with rfl | ha
  · exact ⟨rest, rfl⟩
  · exact absurd (List.rel_of_pairwise_cons h.ordered ha) (by simp)

end FirstOccurrences

/-! ## Entries under names -/

section Entries

variable {entries : List (α × β)} {name : α} {b : β}

omit [DecidableEq β]

theorem mem_of_lookup (h : entries.lookup name = some b) : (name, b) ∈ entries := by
  obtain ⟨before, after, rfl, -⟩ := List.lookup_eq_some_iff.mp h
  simp

theorem lookup_eq_none_iff_notMem : entries.lookup name = none ↔ name ∉ entries.map Prod.fst := by
  rw [List.lookup_eq_none_iff, List.mem_map]
  constructor
  · rintro h ⟨e, he, rfl⟩
    simpa using h e he
  · intro h e he
    exact bne_iff_ne.mpr fun heq => h ⟨e, he, heq.symm⟩

/-- Where names are different, every entry is found under its name. -/
theorem lookup_of_mem (hnames : (entries.map Prod.fst).Nodup) {e : α × β} (he : e ∈ entries) :
    entries.lookup e.1 = some e.2 := by
  obtain ⟨before, after, rfl⟩ := List.append_of_mem he
  refine List.lookup_eq_some_iff.mpr ⟨before, after, rfl, fun d hd => ?_⟩
  rw [List.map_append, List.nodup_append] at hnames
  have hne : d.1 ≠ e.1 := hnames.2.2 _ (List.mem_map_of_mem hd) _ (by simp)
  exact bne_iff_ne.mpr hne.symm

end Entries

end RowFilter
