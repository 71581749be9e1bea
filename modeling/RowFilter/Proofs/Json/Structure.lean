import RowFilter.Json.Decode
import RowFilter.Proofs.Outcome

/-!
# Structures read part by part

A structure is gathered part after part. Whether a part is refused does not depend on those before
it, so the first part that is refused decides. If none is, and no two parts are for one field, then
each field has what its own part is read as.

Headlines:
* `get_foldlM`: a field has what its part is read as, or what it had before if there is none;
* `read_getD_of_foldlM`: so what is left out may as well be written as what it is then;
* `refusal?_foldlM`: the first part that is refused decides.
-/

namespace RowFilter

open Json (Reading Outline)
open Outcome (bind_ok_iff refusal?)

/-! ## Parts -/

namespace Json.Outline

variable {α σ τ : Type} {o : Outline} {set : σ → String → Json → Reading σ}

/-- Of what a structure is made of, `set` reads `get` from the value of the field of this name, and
does not touch it for another field. -/
structure ReadsAt (o : Outline) (set : σ → String → Json → Reading σ) (key : String)
    (read : Json → Reading α) (get : σ → α) : Prop where
  own : ∀ {s s' v}, set s key v = .ok s' → read v = .ok (get s')
  frame : ∀ {s s' k v}, k ∈ o.fields → k ≠ key → set s k v = .ok s' → get s' = get s

variable {key : String} {read : Json → Reading α} {get : σ → α}

/-- What is read is put in by an update. -/
theorem ReadsAt.of_update {update : σ → α → σ}
    (hset : ∀ s v, set s key v = do return update s (← read v))
    (hget : ∀ s a, get (update s a) = a)
    (frame : ∀ {s s' k v}, k ∈ o.fields → k ≠ key → set s k v = .ok s' → get s' = get s) :
    o.ReadsAt set key read get where
  own {s s' v} h := by
    rw [hset] at h
    obtain ⟨a, ha, h⟩ := bind_ok_iff.mp h
    obtain rfl := Except.ok.inj h
    rw [hget, ha]
  frame := frame

/-- Parts that are not there are not set. -/
theorem get_foldlM_of_notMem (hset : o.ReadsAt set key read get) (form : τ → Json)
    {parts : List (String × τ)} (hfields : ∀ p ∈ parts, p.1 ∈ o.fields)
    (hkey : key ∉ parts.map Prod.fst) {start s : σ}
    (h : parts.foldlM (fun s p => set s p.1 (form p.2)) start = .ok s) : get s = get start := by
  induction parts generalizing start with
  | nil =>
    obtain rfl := Except.ok.inj h
    rfl
  | cons p parts ih =>
    rw [List.forall_mem_cons] at hfields
    rw [List.map_cons, List.mem_cons, not_or] at hkey
    rw [List.foldlM_cons] at h
    obtain ⟨s', hs', h⟩ := bind_ok_iff.mp h
    rw [ih hfields.2 hkey.2 h]
    exact hset.frame hfields.1 (Ne.symm hkey.1) hs'

/-- **A field has what its part is read as**, or what it had before if there is none. -/
theorem get_foldlM (hset : o.ReadsAt set key read get) (form : τ → Json)
    {parts : List (String × τ)} (hfields : ∀ p ∈ parts, p.1 ∈ o.fields)
    (hnames : (parts.map Prod.fst).Nodup) {start s : σ}
    (h : parts.foldlM (fun s p => set s p.1 (form p.2)) start = .ok s) :
    (parts.lookup key).elim (get s = get start) fun t => read (form t) = .ok (get s) := by
  induction parts generalizing start with
  | nil =>
    obtain rfl := Except.ok.inj h
    rfl
  | cons p parts ih =>
    obtain ⟨name, t⟩ := p
    rw [List.forall_mem_cons] at hfields
    rw [List.map_cons, List.nodup_cons] at hnames
    rw [List.foldlM_cons] at h
    obtain ⟨s', hs', h⟩ := bind_ok_iff.mp h
    rw [List.lookup_cons]
    -- behind the part for the field none is for it again, and other parts leave it alone
    by_cases hkey : name = key
    · subst hkey
      rw [beq_self_eq_true, Option.elim_some, get_foldlM_of_notMem hset form hfields.2 hnames.1 h]
      exact hset.own hs'
    · rw [beq_eq_false_iff_ne.mpr (Ne.symm hkey), ← hset.frame hfields.1 hkey hs']
      exact ih hfields.2 hnames.2 h

/-- What is left out may as well be written as something that changes nothing. -/
theorem read_getD_of_foldlM (hset : o.ReadsAt set key read get) {members : List (String × Json)}
    (hfields : ∀ m ∈ members, m.1 ∈ o.fields) (hnames : (members.map Prod.fst).Nodup) {start s : σ}
    (h : members.foldlM (fun s m => set s m.1 m.2) start = .ok s) {v : Json}
    (hv : read v = .ok (get start)) :
    read ((lookup key members).getD v) = .ok (get s) := by
  have hget : (lookup key members).elim _ _ := get_foldlM hset id hfields hnames h
  cases hkey : lookup key members with
  | none =>
    rw [hkey, Option.elim_none] at hget
    rw [Option.getD_none, hget, hv]
  | some w =>
    rw [hkey, Option.elim_some] at hget
    rwa [Option.getD_some]

/-- Members that are all fields are set one after another. -/
theorem foldlM_member_eq {members : List (String × Json)} (hfields : ∀ m ∈ members, m.1 ∈ o.fields)
    (start : σ) :
    members.foldlM (o.member set) start = members.foldlM (fun s m => set s m.1 m.2) start := by
  induction members generalizing start with
  | nil => rfl
  | cons m members ih =>
    rw [List.forall_mem_cons] at hfields
    have hm : o.member set start m = set start m.1 m.2 := if_pos (by simpa using hfields.1)
    rw [List.foldlM_cons, List.foldlM_cons, hm]
    exact bind_congr fun s => ih hfields.2 s

/-- **The first part that is refused decides**, if what was gathered before does not count. -/
theorem refusal?_foldlM {refused : String → Json → Option Mismatch}
    (hset : ∀ s k v, refusal? (set s k v) = refused k v) (members : List (String × Json))
    (start : σ) :
    refusal? (members.foldlM (fun s m => set s m.1 m.2) start) =
      members.findSome? fun m => refused m.1 m.2 := by
  induction members generalizing start with
  | nil => rfl
  | cons m members ih =>
    rw [List.foldlM_cons, List.findSome?_cons, ← hset start]
    cases set start m.1 m.2 with
    | error e => rfl
    | ok s => exact ih s

end Json.Outline
end RowFilter
