import RowFilter.Proofs.Outcome
import RowFilter.Record.Setting

/-!
# Lists with commas

The grammar of a list says what its items are and where commas stand: between each two, and perhaps
after the last. The reader of lists cuts the tokens at their commas instead, and goes through the
pieces. Where no item is empty or has a comma of its own, the two agree.

Headlines:
* `commas_induct`: tokens are free of commas, or have a first one;
* `commaList_iff`: the items of a list are its pieces;
* `CommaList.unique`: tokens are a list in one way at most;
* **`readPieces_eq_ok_iff`**: reading a list gathers its items one after another.
-/

namespace RowFilter.Record

variable {α β : Type}

/-! ## Grammar -/

/-- Items with commas between them, and perhaps one after the last. -/
inductive CommaList (item : β → List Token → Prop) : List β → List Token → Prop
  | nil : CommaList item [] []
  | last {x : β} {ts : List Token} (hx : item x ts) : CommaList item [x] ts
  | cons {x : β} {ts : List Token} (isJoined : Bool) {xs : List β} {us : List Token}
      (hx : item x ts) (hxs : CommaList item xs us) :
      CommaList item (x :: xs) (ts ++ .mark ',' isJoined :: us)

/-- No comma stands among the tokens, but for those inside of groups. -/
def IsCommaFree (ts : List Token) : Prop := ∀ t ∈ ts, t.isMark ',' = false

/-- Items that can be told apart in a list: none is empty, and none has a comma. -/
def IsSeparable (item : β → List Token → Prop) : Prop :=
  ∀ {x : β} {ts : List Token}, item x ts → ts ≠ [] ∧ IsCommaFree ts

/-! ## Pieces -/

/-- What holds of tokens without a comma, and of tokens with one if it holds of what follows their
first comma, holds of all tokens. -/
@[elab_as_elim]
theorem commas_induct {motive : List Token → Prop} (free : ∀ ts, IsCommaFree ts → motive ts)
    (comma : ∀ piece isJoined us, IsCommaFree piece → motive us →
      motive (piece ++ .mark ',' isJoined :: us)) (ts : List Token) : motive ts := by
  -- The tokens already passed belong to the piece that is being read.
  suffices h : ∀ piece, IsCommaFree piece → motive (piece ++ ts) from
    h [] fun _ ht => absurd ht List.not_mem_nil
  induction ts with
  | nil =>
    intro piece hp
    rw [List.append_nil]
    exact free piece hp
  | cons t ts ih =>
    intro piece hp
    cases ht : t.isMark ',' with
    | true =>
      have htail : motive ts := ih [] fun _ hu => absurd hu List.not_mem_nil
      match t, ht with
      | .mark c isJoined, hc =>
        obtain rfl : ',' = c := by simpa [Token.isMark] using hc
        exact comma piece isJoined ts hp htail
    | false =>
      have hmore : IsCommaFree (piece ++ [t]) := by
        intro u hu
        rcases List.mem_append.mp hu with hu | hu
        · exact hp u hu
        · rw [List.mem_singleton.mp hu, ht]
      have h := ih (piece ++ [t]) hmore
      rwa [List.append_assoc, List.singleton_append] at h

theorem splitAtCommas_ne_nil (ts : List Token) : splitAtCommas ts ≠ [] := by
  cases ts with
  | nil => simp [splitAtCommas]
  | cons t ts =>
    rw [splitAtCommas]
    split
    · exact List.cons_ne_nil _ _
    · split <;> exact List.cons_ne_nil _ _

theorem splitAtCommas_of_isCommaFree {ts : List Token} (h : IsCommaFree ts) :
    splitAtCommas ts = [ts] := by
  induction ts with
  | nil => rfl
  | cons t ts ih =>
    rw [splitAtCommas, h t List.mem_cons_self, ih fun u hu => h u (List.mem_cons_of_mem t hu)]
    rfl

theorem pieces_of_isCommaFree {ts : List Token} (h : IsCommaFree ts) (hne : ts ≠ []) :
    pieces ts = [ts] := by
  rw [pieces, splitAtCommas_of_isCommaFree h]
  simp [hne]

theorem pieces_append {piece : List Token} (h : IsCommaFree piece) (isJoined : Bool)
    (ts : List Token) : pieces (piece ++ .mark ',' isJoined :: ts) = piece :: pieces ts := by
  have hne := splitAtCommas_ne_nil ts
  rw [pieces, pieces, splitAtCommas_append h, List.getLast?_cons_of_ne_nil hne,
    List.dropLast_cons_of_ne_nil hne]
  split <;> rfl

/-- **The items of a list are its pieces.** -/
theorem commaList_iff {item : β → List Token → Prop} (hitem : IsSeparable item) {xs : List β}
    {ts : List Token} : CommaList item xs ts ↔ List.Forall₂ item xs (pieces ts) := by
  constructor
  · intro h
    induction h with
    | nil => exact .nil
    | last hx =>
      rw [pieces_of_isCommaFree (hitem hx).2 (hitem hx).1]
      exact .cons hx .nil
    | cons isJoined hx _ ih =>
      rw [pieces_append (hitem hx).2]
      exact .cons hx ih
  · intro h
    induction ts using commas_induct generalizing xs with
    | free ts hfree =>
      by_cases hne : ts = []
      · subst hne
        cases h
        exact .nil
      · rw [pieces_of_isCommaFree hfree hne] at h
        obtain _ | ⟨hx, _ | _⟩ := h
        exact .last hx
    | comma piece isJoined us hfree ih =>
      rw [pieces_append hfree] at h
      obtain _ | ⟨hx, hxs⟩ := h
      exact .cons isJoined hx (ih hxs)

/-- Tokens are a list in one way at most, if each piece is an item in one way at most. -/
theorem CommaList.unique {item : β → List Token → Prop} (hitem : IsSeparable item)
    (hunique : Relator.LeftUnique item) {xs ys : List β} {ts : List Token}
    (hx : CommaList item xs ts) (hy : CommaList item ys ts) : xs = ys :=
  List.left_unique_forall₂' hunique ((commaList_iff hitem).mp hx) ((commaList_iff hitem).mp hy)

/-! ## Reading -/

theorem readPieces_go_eq_ok_iff {read : α → Bool → List Token → Checked α}
    {item : β → List Token → Prop} {step : α → β → Option α}
    (hread : ∀ a atEnd piece b, read a atEnd piece = .ok b ↔
      ∃ x, item x piece ∧ step a x = some b)
    {trailing : Bool} {ps : List (List Token)} {a b : α} :
    readPieces.go read trailing a ps = .ok b ↔
      ∃ xs, List.Forall₂ item xs ps ∧ xs.foldlM step a = some b := by
  induction ps generalizing a with
  | nil =>
    rw [readPieces.go]
    constructor
    · intro h
      exact ⟨[], .nil, congrArg some (Except.ok.inj h)⟩
    · rintro ⟨_, ⟨⟩, h⟩
      exact congrArg Except.ok (Option.some.inj h)
  | cons piece ps ih =>
    rw [readPieces.go, Outcome.bind_ok_iff]
    constructor
    · rintro ⟨c, hc, h⟩
      obtain ⟨x, hx, hstep⟩ := (hread a _ piece c).mp hc
      obtain ⟨xs, hxs, hsteps⟩ := ih.mp h
      refine ⟨x :: xs, .cons hx hxs, ?_⟩
      rw [List.foldlM_cons, hstep]
      exact hsteps
    · rintro ⟨_, _ | ⟨hx, hxs⟩, h⟩
      rw [List.foldlM_cons] at h
      obtain ⟨c, hstep, hsteps⟩ := Option.bind_eq_some_iff.mp h
      exact ⟨c, (hread a _ piece c).mpr ⟨_, hx, hstep⟩, ih.mpr ⟨_, hxs, hsteps⟩⟩

/-- **Reading a list gathers its items one after another**, where reading a piece is adding the item
that it spells. -/
theorem readPieces_eq_ok_iff {read : α → Bool → List Token → Checked α}
    {item : β → List Token → Prop} {step : α → β → Option α} (hitem : IsSeparable item)
    (hread : ∀ a atEnd piece b, read a atEnd piece = .ok b ↔
      ∃ x, item x piece ∧ step a x = some b)
    {ts : List Token} {a b : α} :
    readPieces read ts a = .ok b ↔ ∃ xs, CommaList item xs ts ∧ xs.foldlM step a = some b := by
  rw [readPieces, readPieces_go_eq_ok_iff hread]
  simp only [commaList_iff hitem]

end RowFilter.Record
