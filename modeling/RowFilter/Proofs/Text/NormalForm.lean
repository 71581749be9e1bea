import RowFilter.Proofs.Text.Spelling

/-!
# The normal form of columns

What the spelling of a name keeps, where it puts underscores, which names it leaves alone, and that
it leaves alone what it has made: all this is read off the one pass over the letters.

Headlines:
* `filter_spellFrom`: but for the underscores, a column holds the letters of the name;
* `isTidy_spellFrom`: underscores stand between letters only, and one at a time;
* `spellFrom_eq_self_iff`: the names that are left alone;
* **`underscore_normal_form`**: columns have one form.
-/

namespace RowFilter.Text

/-! ## Normal forms -/

/-- Underscores stand neither at an end nor next to each other. -/
structure IsTidy (column : List Char) : Prop where
  head : column.head? ≠ some '_'
  last : column.getLast? ≠ some '_'
  single : ¬['_', '_'] <:+: column

/-- The text holds neither capitals nor separators other than underscores. -/
def IsPlain (column : List Char) : Prop :=
  ∀ c ∈ column, c.isUpper = false ∧ c ≠ '-' ∧ c ≠ ' '

/-- The letters of a name in lower case, without the separators. -/
def letters (name : List Char) : List Char := (name.filter fun c => !isGap c).map Char.toLower

/-- How a name is spelt as a column. -/
structure SpeltAs (name column : List Char) : Prop where
  /-- But for the underscores, the column holds the letters of the name. -/
  letters : column.filter (· != '_') = letters name
  tidy : IsTidy column
  /-- Between two letters that follow each other in the name but for separators, an underscore
  stands exactly if there is a separator, or if a word begins at the second. The letters are found
  in the column behind as many letters as in the name. -/
  marks : ∀ before a gap b after, name = before ++ a :: (gap ++ b :: after) →
    isGap a = false → (∀ c ∈ gap, isGap c = true) → isGap b = false →
    ∃ start between rest, column = start ++ a.toLower :: (between ++ b.toLower :: rest) ∧
      start.filter (· != '_') = Text.letters before ∧
      between = if gap ≠ [] ∨ Begins a b after.head? then ['_'] else []

theorem isGap_of_isAlpha {c : Char} (h : c.isAlpha = true) : isGap c = false := by
  refine Bool.eq_false_iff.mpr fun hc => ?_
  simp only [isGap, Bool.or_eq_true, beq_iff_eq] at hc
  rcases hc with (rfl | rfl) | rfl <;> exact absurd h (by decide)

/-- In lower case there are no capitals, and nothing but them is changed. -/
theorem toLower_cases (c : Char) : c.toLower.isUpper = false ∧
    (c.toLower = c ∨ c.isUpper = true ∧ c.toLower.isLower = true) := by
  delta Char.isUpper Char.isLower Char.toLower
  split
  · rename_i hcapital
    simp [UInt32.le_iff_toNat_le] at hcapital ⊢
    omega
  · rename_i hother
    exact ⟨by simpa using hother, .inl rfl⟩

/-- A character is a separator or none, whatever its case. -/
theorem isGap_toLower (c : Char) : isGap c.toLower = isGap c := by
  rcases (toLower_cases c).2 with hkept | ⟨hupper, hlower⟩
  · rw [hkept]
  · have hletter : c.isAlpha = true := Bool.or_eq_true_iff.mpr (.inl hupper)
    have hsmall : c.toLower.isAlpha = true := Bool.or_eq_true_iff.mpr (.inr hlower)
    rw [isGap_of_isAlpha hsmall, isGap_of_isAlpha hletter]

theorem toLower_ne_underscore {c : Char} (h : isGap c = false) : c.toLower ≠ '_' := by
  intro hc
  rw [← isGap_toLower, hc] at h
  exact absurd h (by decide)

theorem mark_eq (last : Option Char) (parted : Bool) (this : Char) (next : Option Char) :
    mark last parted this next = [] ∨ mark last parted this next = ['_'] := by
  cases last with
  | none => exact .inl rfl
  | some p =>
    rw [mark]
    split
    · exact .inr rfl
    · exact .inl rfl

theorem filter_mark (last : Option Char) (parted : Bool) (this : Char) (next : Option Char) :
    (mark last parted this next).filter (· != '_') = [] := by
  rcases mark_eq last parted this next with h | h <;> rw [h] <;> rfl

/-! ### Letters -/

theorem letters_of_isGap {c : Char} (h : isGap c = true) (cs : List Char) :
    letters (c :: cs) = letters cs := by
  rw [letters, List.filter_cons_of_neg (by simp [h]), letters]

theorem letters_of_not_isGap {c : Char} (h : isGap c = false) (cs : List Char) :
    letters (c :: cs) = c.toLower :: letters cs := by
  rw [letters, List.filter_cons_of_pos (by simp [h]), List.map_cons, letters]

theorem filter_mark_append {c : Char} (h : isGap c = false) (last : Option Char) (parted : Bool)
    (next : Option Char) (rest : List Char) :
    (mark last parted c next ++ c.toLower :: rest).filter (· != '_') =
      c.toLower :: rest.filter (· != '_') := by
  rw [List.filter_append, filter_mark, List.nil_append,
    List.filter_cons_of_pos (by simp [toLower_ne_underscore h])]

/-- **The letters** are those of the name. -/
theorem filter_spellFrom (last : Option Char) (parted : Bool) (cs : List Char) :
    (spellFrom last parted cs).filter (· != '_') = letters cs := by
  induction cs generalizing last parted with
  | nil => rfl
  | cons c cs ih =>
    cases h : isGap c with
    | true => rw [spellFrom_of_isGap h, letters_of_isGap h, ih]
    | false => rw [spellFrom_of_not_isGap h, letters_of_not_isGap h, filter_mark_append h, ih]

/-! ### Underscores -/

theorem getLast?_spellFrom (last : Option Char) (parted : Bool) (cs : List Char) :
    (spellFrom last parted cs).getLast? ≠ some '_' := by
  induction cs generalizing last parted with
  | nil => simp [spellFrom]
  | cons c cs ih =>
    cases h : isGap c with
    | true =>
      rw [spellFrom_of_isGap h]
      exact ih last true
    | false =>
      rw [spellFrom_of_not_isGap h, List.getLast?_append, List.getLast?_cons]
      -- The last letter of the rest is the last one, and if there is no rest this letter is.
      cases hlast : (spellFrom (some c) false cs).getLast? with
      | none => simpa using toLower_ne_underscore h
      | some d => simpa [hlast] using ih (some c) false

theorem not_doubled_cons {c : Char} {cs : List Char} (hc : c ≠ '_')
    (h : ¬['_', '_'] <:+: cs) : ¬['_', '_'] <:+: c :: cs := by
  rw [List.infix_cons_iff, List.cons_prefix_cons]
  rintro (⟨hhead, -⟩ | hinfix)
  · exact hc hhead.symm
  · exact h hinfix

theorem not_doubled_underscore {c : Char} {cs : List Char} (hc : c ≠ '_')
    (h : ¬['_', '_'] <:+: cs) : ¬['_', '_'] <:+: '_' :: c :: cs := by
  rw [List.infix_cons_iff, List.cons_prefix_cons, List.cons_prefix_cons]
  rintro (⟨-, hhead, -⟩ | hinfix)
  · exact hc hhead.symm
  · exact not_doubled_cons hc h hinfix

theorem not_doubled_spellFrom (last : Option Char) (parted : Bool) (cs : List Char) :
    ¬['_', '_'] <:+: spellFrom last parted cs := by
  induction cs generalizing last parted with
  | nil => simp [spellFrom]
  | cons c cs ih =>
    cases h : isGap c with
    | true =>
      rw [spellFrom_of_isGap h]
      exact ih last true
    | false =>
      have hc := toLower_ne_underscore h
      rw [spellFrom_of_not_isGap h]
      rcases mark_eq last parted c cs.head? with hmark | hmark
      · rw [hmark]
        exact not_doubled_cons hc (ih (some c) false)
      · rw [hmark]
        exact not_doubled_underscore hc (ih (some c) false)

theorem head?_spellFrom (parted : Bool) (cs : List Char) :
    (spellFrom none parted cs).head? ≠ some '_' := by
  induction cs generalizing parted with
  | nil => simp [spellFrom]
  | cons c cs ih =>
    cases h : isGap c with
    | true =>
      rw [spellFrom_of_isGap h]
      exact ih true
    | false =>
      rw [spellFrom_of_not_isGap h]
      simpa [mark] using toLower_ne_underscore h

/-- **Underscores** stand between letters only, and one at a time. -/
theorem isTidy_spellFrom (cs : List Char) : IsTidy (spellFrom none false cs) :=
  ⟨head?_spellFrom false cs, getLast?_spellFrom none false cs, not_doubled_spellFrom none false cs⟩

/-- A letter that is kept is found behind as many letters as in the name. -/
theorem exists_spellFrom_append {a : Char} (ha : isGap a = false) (before after : List Char)
    (last : Option Char) (parted : Bool) :
    ∃ start, spellFrom last parted (before ++ a :: after) =
        start ++ a.toLower :: spellFrom (some a) false after ∧
      start.filter (· != '_') = letters before := by
  induction before generalizing last parted with
  | nil =>
    refine ⟨mark last parted a after.head?, ?_, filter_mark ..⟩
    rw [List.nil_append, spellFrom_of_not_isGap ha]
  | cons c before ih =>
    cases h : isGap c with
    | true =>
      obtain ⟨start, hstart, hletters⟩ := ih last true
      refine ⟨start, ?_, ?_⟩
      · rw [List.cons_append, spellFrom_of_isGap h, hstart]
      · rw [hletters, letters_of_isGap h]
    | false =>
      obtain ⟨start, hstart, hletters⟩ := ih (some c) false
      refine ⟨mark last parted c (before ++ a :: after).head? ++ c.toLower :: start, ?_, ?_⟩
      · rw [List.cons_append, spellFrom_of_not_isGap h, hstart, List.append_assoc,
          List.cons_append]
      · rw [filter_mark_append h, hletters, letters_of_not_isGap h]

/-- What stands between two letters that follow each other but for separators. -/
theorem spellFrom_gap {a b : Char} (hb : isGap b = false) {gap : List Char}
    (hgap : ∀ c ∈ gap, isGap c = true) (after : List Char) (parted : Bool) :
    spellFrom (some a) parted (gap ++ b :: after) =
      (if parted = true ∨ gap ≠ [] ∨ Begins a b after.head? then ['_'] else []) ++
        b.toLower :: spellFrom (some b) false after := by
  induction gap generalizing parted with
  | nil =>
    rw [List.nil_append, spellFrom_of_not_isGap hb]
    simp [mark]
  | cons c gap ih =>
    obtain ⟨hc, hrest⟩ := List.forall_mem_cons.mp hgap
    rw [List.cons_append, spellFrom_of_isGap hc, ih hrest]
    simp

/-- **The one pass** spells names as columns. -/
theorem speltAs_spellFrom (name : List Char) : SpeltAs name (spellFrom none false name) where
  letters := filter_spellFrom none false name
  tidy := isTidy_spellFrom name
  marks before a gap b after hname ha hgap hb := by
    obtain ⟨start, hstart, hletters⟩ :=
      exists_spellFrom_append ha before (gap ++ b :: after) none false
    rw [spellFrom_gap hb hgap] at hstart
    exact ⟨start, _, _, hname ▸ hstart, hletters, by simp⟩

/-! ### Names that are columns already -/

theorem isGap_of_isPlain {c : Char} {column : List Char} (h : IsPlain column) (hc : c ∈ column)
    (hne : c ≠ '_') : isGap c = false := by
  obtain ⟨-, hhyphen, hblank⟩ := h c hc
  simp [isGap, hne, hhyphen, hblank]

/-- Behind a letter, a plain text is left alone if no underscore of it stands at its end or next to
another; an underscore that has been read already counts. -/
theorem spellFrom_some_eq {cs : List Char} (hplain : IsPlain cs) (p : Char) (parted : Bool)
    (hlast : ((if parted then ['_'] else []) ++ cs).getLast? ≠ some '_')
    (hsingle : ¬['_', '_'] <:+: (if parted then ['_'] else []) ++ cs) :
    spellFrom (some p) parted cs = (if parted then ['_'] else []) ++ cs := by
  induction cs generalizing p parted with
  | nil =>
    cases parted with
    | true => exact absurd rfl hlast
    | false => rfl
  | cons c cs ih =>
    obtain ⟨⟨hupper, -, -⟩, hrest⟩ := List.forall_mem_cons.mp hplain
    by_cases hc : c = '_'
    · subst hc
      cases parted with
      | true => exact absurd (List.prefix_append ['_', '_'] cs).isInfix hsingle
      | false =>
        rw [spellFrom_of_isGap rfl]
        exact ih hrest p true hlast hsingle
    · have hgap := isGap_of_isPlain hplain List.mem_cons_self hc
      have hsuffix : cs <:+ (if parted then ['_'] else []) ++ c :: cs :=
        (List.suffix_cons c cs).trans (List.suffix_append _ _)
      have hmore := ih hrest c false
        (fun h => hlast (by cases parted <;> simp_all [List.getLast?_cons]))
        (fun h => hsingle (h.trans hsuffix.isInfix))
      have hkept : c.toLower = c := (toLower_cases c).2.resolve_right (by simp [hupper])
      rw [spellFrom_of_not_isGap hgap, hmore, hkept]
      cases parted <;> simp [mark, Begins, hupper]

/-- A column holds underscores, and letters of the name in lower case. -/
theorem exists_letter_of_mem_spellFrom {c : Char} {name : List Char}
    (hc : c ∈ spellFrom none false name) (hne : c ≠ '_') :
    ∃ d ∈ name, isGap d = false ∧ d.toLower = c := by
  have hletter : c ∈ letters name := by
    rw [← filter_spellFrom none false name]
    exact List.mem_filter.mpr ⟨hc, bne_iff_ne.mpr hne⟩
  obtain ⟨d, hd, rfl⟩ := List.mem_map.mp hletter
  obtain ⟨hmem, hgap⟩ := List.mem_filter.mp hd
  exact ⟨d, hmem, by simpa using hgap, rfl⟩

theorem isPlain_spellFrom (name : List Char) : IsPlain (spellFrom none false name) := by
  intro c hc
  by_cases hne : c = '_'
  · subst hne
    decide
  · obtain ⟨d, -, hgap, rfl⟩ := exists_letter_of_mem_spellFrom hc hne
    rw [← isGap_toLower] at hgap
    simp only [isGap, Bool.or_eq_false_iff, beq_eq_false_iff_ne] at hgap
    exact ⟨(toLower_cases d).1, hgap.1.2, hgap.2⟩

/-- **A name is left alone** exactly if it is plain and tidy. -/
theorem spellFrom_eq_self_iff {name : List Char} :
    spellFrom none false name = name ↔ IsPlain name ∧ IsTidy name := by
  constructor
  · intro h
    rw [← h]
    exact ⟨isPlain_spellFrom name, isTidy_spellFrom name⟩
  · rintro ⟨hplain, htidy⟩
    cases name with
    | nil => rfl
    | cons c cs =>
      obtain ⟨⟨hupper, -, -⟩, hrest⟩ := List.forall_mem_cons.mp hplain
      have hgap := isGap_of_isPlain hplain List.mem_cons_self fun h => htidy.head (by rw [h]; rfl)
      have hmore := spellFrom_some_eq hrest c false
        (fun h => htidy.last (by simp_all [List.getLast?_cons]))
        (fun h => htidy.single (h.trans (List.suffix_cons c cs).isInfix))
      have hkept : c.toLower = c := (toLower_cases c).2.resolve_right (by simp [hupper])
      rw [spellFrom_of_not_isGap hgap, hmore, hkept]
      rfl

theorem ascii_spellFrom {name : List Char} (h : ∀ c ∈ name, c.toNat < 128) :
    ∀ c ∈ spellFrom none false name, c.toNat < 128 := by
  intro c hc
  by_cases hne : c = '_'
  · subst hne
    decide
  · obtain ⟨d, hd, -, rfl⟩ := exists_letter_of_mem_spellFrom hc hne
    exact ascii_induct (p := fun d => d.toLower.toNat < 128) (by decide) (h d hd)

/-- **Columns have one form**: the column of an ASCII name holds the letters of the name, with
underscores where separators stood or words begin; the names that are columns already are the plain
and tidy ones; and a column is its own column. -/
theorem underscore_normal_form {name : String} (h : ∀ c ∈ name.toList, c.toNat < 128) :
    SpeltAs name.toList (underscore name).toList ∧
    (underscore name = name ↔ IsPlain name.toList ∧ IsTidy name.toList) ∧
    underscore (underscore name) = underscore name := by
  have hspelt : (underscore name).toList = spellFrom none false name.toList := by
    rw [underscore, String.toList_ofList, underscoreChars_eq h]
  have hagain : (underscore (underscore name)).toList =
      spellFrom none false (underscore name).toList := by
    rw [underscore, String.toList_ofList, underscoreChars_eq]
    rw [hspelt]
    exact ascii_spellFrom h
  refine ⟨?_, ?_, ?_⟩
  · rw [hspelt]
    exact speltAs_spellFrom name.toList
  · rw [← String.toList_inj, hspelt]
    exact spellFrom_eq_self_iff
  · rw [← String.toList_inj, hagain, hspelt]
    exact spellFrom_eq_self_iff.mpr ⟨isPlain_spellFrom _, isTidy_spellFrom _⟩

/-- An acronym, a number, a run of separators and separators at both ends, none of which is left. -/
theorem underscore_normal_form_of_oddName :
    (∀ c ∈ "_XMLHttp2Request - ID\r\nb__".toList, c.toNat < 128) ∧
    underscore "_XMLHttp2Request - ID\r\nb__" = "xml_http2_request_id\r\nb" ∧
    underscore "xml_http2_request_id\r\nb" = "xml_http2_request_id\r\nb" := by
  have hascii : ∀ c ∈ "_XMLHttp2Request - ID\r\nb__".toList, c.toNat < 128 := by simp
  have hspelt : underscore "_XMLHttp2Request - ID\r\nb__" = "xml_http2_request_id\r\nb" := by
    decide +kernel
  obtain ⟨-, -, hagain⟩ := underscore_normal_form hascii
  rw [hspelt] at hagain
  exact ⟨hascii, hspelt, hagain⟩

end RowFilter.Text
