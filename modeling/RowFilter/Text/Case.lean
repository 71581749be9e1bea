import RowFilter.Text.Case.Table

/-!
# Case of texts

Lower and upper case of whole texts. A letter may become several characters, and a capital sigma
becomes the final form where a letter comes before it in the text and none after it, characters
that case ignores being passed over.

Headline: `lowerAfter_ascii`: on ASCII, lower case is taken letter by letter.
-/

namespace RowFilter.Text

/-- The counterpart of a character, by its long form, else by its run, else itself. -/
def counterpart (long : List (Nat × List Nat)) (shifts : List Shift) (c : Char) : List Char :=
  match long.find? (fun e => e.1 == c.toNat) with
  | some e => e.2.map Char.ofNat
  | none =>
    match shifts.find? (·.has c.toNat) with
    | some s => [Char.ofNat (c.toNat + s.delta).toNat]
    | none => [c]

/-- The lower-case form of a character on its own. -/
def lowerChar (c : Char) : List Char :=
  if c.toNat < 128 then [c.toLower] else counterpart lowerLong lowerShifts c

/-- The upper-case form of a character. -/
def upperChar (c : Char) : List Char :=
  if c.toNat < 128 then [c.toUpper] else counterpart upperLong upperShifts c

/-- A letter of either case comes first, after characters that case ignores. -/
def meetsCased (cs : List Char) : Bool :=
  match cs.dropWhile caseIgnorableRanges.has with
  | c :: _ => casedRanges.has c
  | [] => false

/-- The lower case of the rest of a text, given what precedes it, the nearest first. -/
def lowerAfter (before : List Char) : List Char → List Char
  | [] => []
  | c :: cs =>
    let this :=
      if c = 'Σ' then [if meetsCased before && !meetsCased cs then 'ς' else 'σ'] else lowerChar c
    this ++ lowerAfter (c :: before) cs

/-- The lower case of a text. -/
def lower (cs : List Char) : List Char := lowerAfter [] cs

/-- The upper case of a text. -/
def upper (cs : List Char) : List Char := cs.flatMap upperChar

/-- On ASCII, lower case is taken letter by letter. -/
theorem lowerAfter_ascii {cs : List Char} (h : ∀ c ∈ cs, c.toNat < 128) (before : List Char) :
    lowerAfter before cs = cs.map Char.toLower := by
  induction cs generalizing before with
  | nil => rfl
  | cons c cs ih =>
    have hc : c.toNat < 128 := h c List.mem_cons_self
    have hs : c ≠ 'Σ' := by rintro rfl; revert hc; decide
    simp [lowerAfter, hs, lowerChar, hc, ih fun d hd => h d (List.mem_cons_of_mem _ hd)]

end RowFilter.Text
