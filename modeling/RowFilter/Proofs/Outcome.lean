import Mathlib.Data.List.Forall2
import RowFilter.Fault

/-!
# Outcomes of computations that may fail

How a chain of steps succeeds: every step does, and each gets what the one before it gave.

Headlines:
* `mapM_eq_ok_iff`: going through a list succeeds exactly when every item does, and the results
  stand in the order of the items;
* `refusal?_mapM` and `mapM_eq_error_iff`: otherwise the first item that fails decides.
-/

namespace RowFilter.Outcome

variable {ε α β γ : Type}

theorem bind_ok_iff {a : Except ε α} {f : α → Except ε β} {b : β} :
    (a >>= f) = .ok b ↔ ∃ x, a = .ok x ∧ f x = .ok b := by
  cases a with
  | error e => simp [bind, Except.bind]
  | ok x => simp [bind, Except.bind]

theorem bind_error_iff {a : Except ε α} {f : α → Except ε β} {e : ε} :
    (a >>= f) = .error e ↔ a = .error e ∨ ∃ x, a = .ok x ∧ f x = .error e := by
  cases a with
  | error e => simp [bind, Except.bind]
  | ok x => simp [bind, Except.bind]

theorem map_error_iff {a : Except ε α} {f : α → β} {e : ε} :
    a.map f = .error e ↔ a = .error e := by
  cases a <;> simp [Except.map]

theorem map_ok_iff {a : Except ε α} {f : α → β} {b : β} :
    a.map f = .ok b ↔ ∃ x, a = .ok x ∧ f x = b := by
  cases a <;> simp [Except.map]

theorem mapError_ok_iff {a : Except ε α} {f : ε → γ} {x : α} :
    a.mapError f = .ok x ↔ a = .ok x := by
  cases a <;> simp [Except.mapError]

theorem eq_ok_of_toOption {a : Except ε α} {x : α} (h : a.toOption = some x) : a = .ok x := by
  cases a with
  | error e => cases h
  | ok y => rw [Option.some.inj h]

/-- **Going through a list**: it succeeds exactly when every item does, in order. -/
theorem mapM_eq_ok_iff {f : α → Except ε β} {as : List α} {bs : List β} :
    as.mapM f = .ok bs ↔ List.Forall₂ (fun a b => f a = .ok b) as bs := by
  induction as generalizing bs with
  | nil => cases bs <;> simp [pure, Except.pure]
  | cons a as ih =>
    rw [List.mapM_cons, bind_ok_iff]
    constructor
    · rintro ⟨b, hb, h⟩
      obtain ⟨rest, hrest, h⟩ := bind_ok_iff.mp h
      obtain rfl := Except.ok.inj h
      exact .cons hb (ih.mp hrest)
    · rintro (_ | ⟨hb, hrest⟩)
      exact ⟨_, hb, bind_ok_iff.mpr ⟨_, ih.mpr hrest, rfl⟩⟩

/-- Items in two lists that do the same one by one do the same together. -/
theorem mapM_congr_of_forall₂ {f : α → Except ε γ} {g : β → Except ε γ} {as : List α} {bs : List β}
    (h : List.Forall₂ (fun a b => f a = g b) as bs) : as.mapM f = bs.mapM g := by
  induction h with
  | nil => rfl
  | cons hab _ ih => rw [List.mapM_cons, List.mapM_cons, hab, ih]

/-- Items that succeed under a condition, each with a result of its own, succeed together if all
meet the condition. -/
theorem mapM_eq_ok_map_iff {f : α → Except ε β} {p : α → Prop} {g : α → β}
    (h : ∀ a b, f a = .ok b ↔ p a ∧ b = g a) {as : List α} {bs : List β} :
    as.mapM f = .ok bs ↔ (∀ a ∈ as, p a) ∧ bs = as.map g := by
  rw [mapM_eq_ok_iff]
  simp only [h]
  induction as generalizing bs with
  | nil => cases bs <;> simp
  | cons a as ih =>
    rw [List.forall₂_cons_left_iff, List.forall_mem_cons, List.map_cons]
    simp only [ih]
    constructor
    · rintro ⟨_, _, ⟨ha, rfl⟩, ⟨has, rfl⟩, rfl⟩
      exact ⟨⟨ha, has⟩, rfl⟩
    · rintro ⟨⟨ha, has⟩, rfl⟩
      exact ⟨_, _, ⟨ha, rfl⟩, ⟨has, rfl⟩, rfl⟩

/-- The fault of a computation, if it fails. -/
def refusal? : Except ε α → Option ε
  | .error e => some e
  | .ok _ => none

theorem refusal?_eq_none_iff {a : Except ε α} : refusal? a = none ↔ ∃ x, a = .ok x := by
  cases a <;> simp [refusal?]

theorem refusal?_eq_some_iff {a : Except ε α} {e : ε} : refusal? a = some e ↔ a = .error e := by
  cases a <;> simp [refusal?]

/-- What succeeds exactly on some grounds does not fail exactly if there are any. -/
theorem refusal?_eq_none_iff_exists {a : Except ε α} {grounds : β → Prop} {result : β → α}
    (h : ∀ {x}, a = .ok x ↔ ∃ b, grounds b ∧ x = result b) :
    refusal? a = none ↔ ∃ b, grounds b := by
  rw [refusal?_eq_none_iff]
  constructor
  · rintro ⟨x, hx⟩
    obtain ⟨b, hb, -⟩ := h.mp hx
    exact ⟨b, hb⟩
  · rintro ⟨b, hb⟩
    exact ⟨result b, h.mpr ⟨b, hb, rfl⟩⟩

theorem refusal?_map (a : Except ε α) (f : α → β) : refusal? (a.map f) = refusal? a := by
  cases a <;> rfl

theorem refusal?_bind_pure (a : Except ε α) (f : α → β) :
    refusal? (a >>= fun x => pure (f x)) = refusal? a := by
  cases a <;> rfl

/-- The first item that fails decides. -/
theorem refusal?_mapM (f : α → Except ε β) (as : List α) :
    refusal? (as.mapM f) = as.findSome? fun a => refusal? (f a) := by
  induction as with
  | nil => rfl
  | cons a as ih =>
    rw [List.mapM_cons, List.findSome?_cons, ← ih]
    cases f a with
    | error e => rfl
    | ok b => cases as.mapM f <;> rfl

/-- Going through a list succeeds somehow exactly when every item succeeds somehow. -/
theorem exists_mapM_eq_ok_iff {f : α → Except ε β} {as : List α} :
    (∃ bs, as.mapM f = .ok bs) ↔ ∀ a ∈ as, ∃ b, f a = .ok b := by
  rw [← refusal?_eq_none_iff, refusal?_mapM, List.findSome?_eq_none_iff]
  simp only [refusal?_eq_none_iff]

/-- **Going through a list fails** with the first item that does: all those before it succeed. -/
theorem mapM_eq_error_iff {f : α → Except ε β} {as : List α} {e : ε} :
    as.mapM f = .error e ↔ ∃ before a after, as = before ++ a :: after ∧ f a = .error e ∧
      ∀ b ∈ before, ∃ x, f b = .ok x := by
  rw [← refusal?_eq_some_iff, refusal?_mapM, List.findSome?_eq_some_iff]
  simp only [refusal?_eq_some_iff, refusal?_eq_none_iff]

theorem exists_of_forall₂_left {R : α → β → Prop} {as : List α} {bs : List β}
    (h : List.Forall₂ R as bs) {a : α} (ha : a ∈ as) : ∃ b ∈ bs, R a b := by
  induction h with
  | nil => exact absurd ha List.not_mem_nil
  | cons hab _ ih =>
    rcases List.mem_cons.mp ha with rfl | ha
    · exact ⟨_, List.mem_cons_self, hab⟩
    · obtain ⟨b, hb, hr⟩ := ih ha
      exact ⟨b, List.mem_cons_of_mem _ hb, hr⟩

theorem exists_of_forall₂_right {R : α → β → Prop} {as : List α} {bs : List β}
    (h : List.Forall₂ R as bs) {b : β} (hb : b ∈ bs) : ∃ a ∈ as, R a b :=
  exists_of_forall₂_left h.flip hb

theorem forall₂_imp_of_mem {R S : α → β → Prop} {as : List α} {bs : List β}
    (hi : ∀ a ∈ as, ∀ {b : β}, R a b → S a b) (h : List.Forall₂ R as bs) :
    List.Forall₂ S as bs := by
  induction h with
  | nil => exact .nil
  | cons hab _ ih =>
    exact .cons (hi _ List.mem_cons_self hab) (ih fun a ha => hi a (List.mem_cons_of_mem _ ha))

end RowFilter.Outcome
