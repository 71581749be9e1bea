import RowFilter.Proofs.Json.Structure
import RowFilter.Proofs.Toml.Once

/-!
# Structures written in TOML

A structure is read part after part, and of two parts for one field the later would count. From a
TOML value that says nothing twice it is read in a simpler way: a field has what is written for it,
or what it had before if nothing is. The value is a table, or a list that goes through the fields in
their order. What stands for a moment or for a number that is not finite is refused, since it bears
a name that no structure has a field for.

Headlines:
* `exists_parts_of_read`: only a table or a list is read as a structure, with no part beside its
  fields;
* **`follows_of_read`**: a field has what is written for it, or what it had before;
* `rel_of_read`: a field that may be missing is there exactly if something is written for it.
-/

namespace RowFilter

open Json (Reading Outline Origin)
open Outcome (bind_ok_iff map_ok_iff)

/-- What a value becomes by what has been written for it, if anything has. -/
inductive Follows {α : Type} (means : Toml → α → Prop) (before : α) : Option Toml → α → Prop where
  | kept : Follows means before none before
  | replaced {t : Toml} {after : α} (h : means t after) : Follows means before (some t) after

section Follows

variable {α : Type} {means : Toml → α → Prop} {before after : α}

theorem follows_none_iff : Follows means before none after ↔ after = before := by
  constructor
  · rintro ⟨⟩
    rfl
  · rintro rfl
    exact .kept

theorem follows_some_iff {t : Toml} : Follows means before (some t) after ↔ means t after := by
  constructor
  · rintro (_ | h)
    exact h
  · exact .replaced

theorem Follows.imp {written : Option Toml} {means' : Toml → α → Prop}
    (h : Follows means before written after)
    (hmeans : ∀ t ∈ written, means t after → means' t after) :
    Follows means' before written after := by
  cases h with
  | kept => exact .kept
  | replaced h => exact .replaced (hmeans _ rfl h)

end Follows

namespace Toml

variable {α σ : Type} {t : Toml}

/-! ## Values -/

theorem itemsJson_eq_map (items : List Toml) : itemsJson items = items.map toJson := by
  induction items with
  | nil => rfl
  | cons t items ih => rw [itemsJson, ih, List.map_cons]

/-- TOML has no null. -/
theorem toJson_ne_null (t : Toml) : t.toJson ≠ .null := by
  cases t with
  | real x =>
    rw [toJson, realJson]
    split <;> simp
  | text | integer | bool | moment | array | table => simp [toJson, Json.ofInt64]

theorem readOption_toJson {read : Json → Reading α} {a : Option α} :
    t.toJson.readOption read = .ok a ↔ ∃ x, read t.toJson = .ok x ∧ a = some x := by
  unfold Json.readOption
  split
  · rename_i hnull
    exact absurd hnull t.toJson_ne_null
  · rw [map_ok_iff]
    simp only [eq_comm]

/-- The value says nothing twice and is read as `a`. -/
structure Gives (read : Json → Reading α) (t : Toml) (a : α) : Prop where
  once : t.SaysOnce
  reads : read t.toJson = .ok a

/-! ## Parts -/

/-- The parts that a value writes of a structure with these fields. -/
def parts? (fields : List String) : Toml → Option (List (String × Toml))
  | .table entries => some entries
  | .array items => some (fields.zip items)
  | _ => none

/-- What a value writes for a field of a structure with these fields. -/
def part? (fields : List String) (name : String) (t : Toml) : Option Toml :=
  (t.parts? fields).bind (·.lookup name)

/-- What a table writes under a name; no other value writes anything there. -/
def entry? (name : String) : Toml → Option Toml
  | .table entries => entries.lookup name
  | _ => none

theorem map_fst_zip_sublist (names : List String) (items : List Toml) :
    ((names.zip items).map Prod.fst).Sublist names := by
  induction names generalizing items with
  | nil => exact .slnil
  | cons name names ih =>
    cases items with
    | nil => exact List.nil_sublist _
    | cons t items => exact (ih items).cons_cons name

theorem nodup_parts {fields : List String} (hfields : fields.Nodup) (ht : t.SaysOnce)
    {parts : List (String × Toml)} (h : t.parts? fields = some parts) :
    (parts.map Prod.fst).Nodup ∧ ∀ p ∈ parts, p.2.SaysOnce := by
  cases ht with
  | table names values =>
    obtain rfl := Option.some.inj h
    exact ⟨names, values⟩
  | array values =>
    obtain rfl := Option.some.inj h
    exact ⟨hfields.sublist (map_fst_zip_sublist _ _), fun p hp => values _ (List.of_mem_zip hp).2⟩
  | text | integer | real | bool | moment => cases h

end Toml

/-! ## Structures -/

namespace Json.Outline

variable {α σ : Type} {o : Outline} {set : σ → String → Json → Reading σ} {t : Toml}

/-- Names that are no fields are refused, fields are different, and none bears a name that stands
for what JSON has no form for. -/
structure IsStrict (o : Outline) : Prop where
  closed : o.isClosed = true
  distinct : o.fields.Nodup
  noMoment : "datetime" ∉ o.fields
  noReal : "float" ∉ o.fields

theorem member_eq_ok_iff (ho : o.IsStrict) {s s' : σ} {m : String × Json} :
    o.member set s m = .ok s' ↔ m.1 ∈ o.fields ∧ set s m.1 m.2 = .ok s' := by
  unfold member
  by_cases h : m.1 ∈ o.fields
  · simp [h]
  · simp [h, ho.closed]

theorem foldlM_member (ho : o.IsStrict) {members : List (String × Json)} {start s : σ}
    (h : members.foldlM (o.member set) start = .ok s) :
    (∀ m ∈ members, m.1 ∈ o.fields) ∧
      members.foldlM (fun s m => set s m.1 m.2) start = .ok s := by
  induction members generalizing start with
  | nil => exact ⟨fun m hm => absurd hm List.not_mem_nil, h⟩
  | cons m members ih =>
    rw [List.foldlM_cons] at h
    obtain ⟨s', hs', h⟩ := bind_ok_iff.mp h
    obtain ⟨hfield, hset⟩ := (member_eq_ok_iff ho).mp hs'
    obtain ⟨hfields, hrest⟩ := ih h
    rw [List.forall_mem_cons, List.foldlM_cons]
    exact ⟨⟨hfield, hfields⟩, bind_ok_iff.mpr ⟨s', hset, hrest⟩⟩

/-- An object with one member that is no field is no structure. -/
theorem read_singleton (ho : o.IsStrict) {name : String} (hname : name ∉ o.fields) {v : Json}
    {start : σ} {out : σ × Origin} : o.read set start (.object [(name, v)]) ≠ .ok out := by
  intro h
  obtain ⟨s, hs, -⟩ := bind_ok_iff.mp h
  exact hname ((foldlM_member ho hs).1 _ List.mem_cons_self)

/-- **Only a table or a list is read as a structure**: its parts are those of fields, and they are
set one after another. -/
theorem exists_parts_of_read (ho : o.IsStrict) {start s : σ} {origin : Origin}
    (h : o.read set start t.toJson = .ok (s, origin)) :
    ∃ parts, t.parts? o.fields = some parts ∧ (∀ p ∈ parts, p.1 ∈ o.fields) ∧
      parts.foldlM (fun s p => set s p.1 p.2.toJson) start = .ok s := by
  cases t with
  | text | integer | bool => cases h
  | real x =>
    rw [Toml.toJson, Toml.realJson] at h
    split at h
    · cases h
    · exact absurd h (read_singleton ho ho.noReal)
  | moment s => exact absurd h (read_singleton ho ho.noMoment)
  | array items =>
    refine ⟨_, rfl, fun p hp => (List.of_mem_zip hp).1, ?_⟩
    obtain ⟨s', hs', h⟩ := bind_ok_iff.mp h
    cases h
    rw [Toml.itemsJson_eq_map, List.zip_map_right, List.foldlM_map] at hs'
    exact hs'
  | table entries =>
    rw [Toml.toJson_table] at h
    obtain ⟨s', hs', h⟩ := bind_ok_iff.mp h
    cases h
    obtain ⟨hfields, hset⟩ := foldlM_member ho hs'
    rw [List.foldlM_map] at hset
    exact ⟨_, rfl, fun p hp => hfields _ (List.mem_map_of_mem hp), hset⟩

variable {key : String} {read : Json → Reading α} {get : σ → α}

theorem follows_of_foldlM (hset : o.ReadsAt set key read get) {parts : List (String × Toml)}
    (hfields : ∀ p ∈ parts, p.1 ∈ o.fields) (hnames : (parts.map Prod.fst).Nodup) {start s : σ}
    (h : parts.foldlM (fun s p => set s p.1 p.2.toJson) start = .ok s) :
    Follows (fun p a => read p.toJson = .ok a) (get start) (parts.lookup key) (get s) := by
  have hget := get_foldlM hset Toml.toJson hfields hnames h
  cases hkey : parts.lookup key with
  | none =>
    rw [hkey, Option.elim_none] at hget
    rw [hget]
    exact .kept
  | some t =>
    rw [hkey, Option.elim_some] at hget
    exact .replaced hget

/-- **A field has what is written for it**, or what it had before if nothing is. -/
theorem follows_of_read (ho : o.IsStrict) (hset : o.ReadsAt set key read get) (ht : t.SaysOnce)
    {start s : σ} {origin : Origin} (h : o.read set start t.toJson = .ok (s, origin)) :
    Follows (Toml.Gives read) (get start) (t.part? o.fields key) (get s) := by
  obtain ⟨parts, hparts, hfields, hfold⟩ := exists_parts_of_read ho h
  obtain ⟨hnames, hvalues⟩ := Toml.nodup_parts ho.distinct ht hparts
  rw [Toml.part?, hparts, Option.bind_some]
  refine (follows_of_foldlM hset hfields hnames hfold).imp fun p hp hread => ⟨?_, hread⟩
  exact hvalues _ (mem_of_lookup hp)

end Json.Outline

/-! ## What may be missing -/

section Missing

variable {α β : Type} {written : Option Toml}

theorem rel_of_follows {read : Json → Reading α} {found : Option α}
    (h : Follows (Toml.Gives (Json.readOption read)) none written found) :
    Option.Rel (Toml.Gives read) written found := by
  cases h with
  | kept => exact .none
  | replaced h =>
    obtain ⟨x, hx, rfl⟩ := Toml.readOption_toJson.mp h.reads
    exact .some ⟨h.once, hx⟩

/-- **A field that may be missing** is there exactly if something is written for it. -/
theorem rel_of_read {σ : Type} {o : Outline} {set : σ → String → Json → Reading σ} {key : String}
    {read : Json → Reading α} {get : σ → Option α} {start s : σ} {t : Toml} {origin : Origin}
    (ho : o.IsStrict) (hset : o.ReadsAt set key (Json.readOption read) get)
    (hstart : get start = none) (ht : t.SaysOnce)
    (h : o.read set start t.toJson = .ok (s, origin)) :
    Option.Rel (Toml.Gives read) (t.part? o.fields key) (get s) :=
  rel_of_follows (hstart ▸ Outline.follows_of_read ho hset ht h)

/-- Parts inside of parts are there together as well. -/
theorem rel_bind {r : Toml → α → Prop} {r' : Toml → β → Prop} {found : Option α}
    {inside : Toml → Option Toml} {get : α → Option β} (h : Option.Rel r written found)
    (hinside : ∀ {t a}, r t a → Option.Rel r' (inside t) (get a)) :
    Option.Rel r' (written.bind inside) (found.bind get) := by
  cases h with
  | none => exact .none
  | some h => exact hinside h

/-- What is found replaces what was before, and what is not found keeps it. -/
theorem follows_of_rel {r : Toml → α → Prop} {means : Toml → β → Prop} {found : Option α}
    {before after : β} (h : Option.Rel r written found) (hkept : found = none → after = before)
    (hreplaced : ∀ {t a}, found = some a → r t a → means t after) :
    Follows means before written after := by
  cases h with
  | none =>
    rw [hkept rfl]
    exact .kept
  | some h => exact .replaced (hreplaced rfl h)

theorem follows_getD {read : Json → Reading α} {means : Toml → α → Prop} {found : Option α}
    (before : α) (h : Option.Rel (Toml.Gives read) written found)
    (hmeans : ∀ {t a}, read t.toJson = .ok a → means t a) :
    Follows means before written (found.getD before) :=
  follows_of_rel h (fun hnone => by rw [hnone, Option.getD_none]) fun {t a} hsome hgives => by
    rw [hsome, Option.getD_some]
    exact hmeans hgives.reads

end Missing

end RowFilter
