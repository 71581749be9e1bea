import RowFilter.Text.Words

/-!
# Names letter by letter

A name is cut into clusters and words before it is spelt as a column. If all its characters are
ASCII, one pass over them finds the same column: separators are dropped, and an underscore is put
before a character that is kept if a separator has come since the last one, or if a word begins at
it. The only cluster of two characters is the line end, which is neither a separator nor a letter.

Headlines:
* `isAsciiCluster_of_mem_clusters`: clusters are single characters and line ends;
* `beginsWord_iff`: words begin at the same places, whether clusters are looked at or letters;
* **`underscoreChars_eq`**: clusters and words come to the same as the one pass.
-/

namespace RowFilter.Text

/-! ## One pass -/

/-- The character separates words and belongs to none. -/
def isGap (c : Char) : Bool := c == '_' || c == '-' || c == ' '

/-- A word begins at a letter, seen between its neighbours: at a capital after a small letter or a
digit, and at a capital between another one and a small letter. -/
def Begins (previous this : Char) (next : Option Char) : Prop :=
  this.isUpper = true ∧ (previous.isLower = true ∨ previous.isDigit = true ∨
    (previous.isUpper = true ∧ ∃ n ∈ next, n.isLower = true))

instance (previous this : Char) (next : Option Char) : Decidable (Begins previous this next) :=
  inferInstanceAs (Decidable (_ ∧ (_ ∨ _ ∨ (_ ∧ _))))

/-- What stands before a letter that is kept, given the last one before it, if there is one, and
whether a separator has come since. -/
def mark (last : Option Char) (parted : Bool) (this : Char) (next : Option Char) : List Char :=
  match last with
  | none => []
  | some previous => if parted = true ∨ Begins previous this next then ['_'] else []

/-- The rest of a name, spelt as a column, given the last letter that was kept and whether a
separator has come since. -/
def spellFrom (last : Option Char) (parted : Bool) : List Char → List Char
  | [] => []
  | c :: cs =>
    if isGap c then spellFrom last true cs
    else mark last parted c cs.head? ++ c.toLower :: spellFrom (some c) false cs

theorem spellFrom_of_isGap {c : Char} (h : isGap c = true) (last : Option Char) (parted : Bool)
    (cs : List Char) : spellFrom last parted (c :: cs) = spellFrom last true cs := by
  rw [spellFrom, if_pos h]

theorem spellFrom_of_not_isGap {c : Char} (h : isGap c = false) (last : Option Char)
    (parted : Bool) (cs : List Char) : spellFrom last parted (c :: cs) =
      mark last parted c cs.head? ++ c.toLower :: spellFrom (some c) false cs := by
  rw [spellFrom, if_neg (by simp [h])]

/-- Only before a capital, or where a separator has come, an underscore is put. -/
theorem mark_of_not_isUpper {this : Char} (h : this.isUpper = false) (last next : Option Char) :
    mark last false this next = [] := by
  cases last with
  | none => rfl
  | some p => simp [mark, Begins, h]

/-- Before the first letter that is kept, separators count for nothing. -/
theorem spellFrom_none (parted : Bool) (cs : List Char) :
    spellFrom none parted cs = spellFrom none false cs := by
  cases cs with
  | nil => rfl
  | cons c cs =>
    cases h : isGap c with
    | true => rw [spellFrom_of_isGap h, spellFrom_of_isGap h]
    | false =>
      rw [spellFrom_of_not_isGap h, spellFrom_of_not_isGap h]
      rfl

/-- A text behind an underscore, if there is any. -/
def parted (text : List Char) : List Char := if text = [] then [] else '_' :: text

/-- After a separator, the rest is spelt by itself and put behind an underscore. -/
theorem spellFrom_some_true (p : Char) (cs : List Char) :
    spellFrom (some p) true cs = parted (spellFrom none false cs) := by
  induction cs with
  | nil => rfl
  | cons c cs ih =>
    cases h : isGap c with
    | true => rw [spellFrom_of_isGap h, spellFrom_of_isGap h, spellFrom_none, ih]
    | false =>
      rw [spellFrom_of_not_isGap h, spellFrom_of_not_isGap h]
      simp [mark, parted]

/-! ## Clusters of ASCII characters -/

theorem ascii_induct {p : Char → Prop} (h : ∀ n < 128, p (Char.ofNat n)) {c : Char}
    (hc : c.toNat < 128) : p c := by
  have hn := h c.toNat hc
  rwa [Char.ofNat_toNat] at hn

theorem isLeading_ascii {c : Char} (hc : c.toNat < 128) : leadingRanges.has c = false :=
  ascii_induct (p := fun c => leadingRanges.has c = false) (by decide) hc

theorem isSmall_ascii {c : Char} (hc : c.toNat < 128) : isSmall [c] = c.isLower :=
  ascii_induct (p := fun c => isSmall [c] = c.isLower) (by decide) hc

theorem isCapital_ascii {c : Char} (hc : c.toNat < 128) : isCapital [c] = c.isUpper :=
  ascii_induct (p := fun c => isCapital [c] = c.isUpper) (by decide) hc

/-- The clusters of ASCII characters: single ones and the line end of two. -/
inductive IsAsciiCluster : List Char → Prop where
  | letter {c : Char} (h : c.toNat < 128) : IsAsciiCluster [c]
  | lineEnd : IsAsciiCluster ['\r', '\n']

/-- Of two ASCII characters, only those of the line end make up one cluster. -/
theorem staysWith_ascii {p c : Char} (hp : p.toNat < 128) (hc : c.toNat < 128)
    (before : List Char) : staysWith (p :: before) c = (p == '\r' && c == '\n') := by
  cases hend : p == '\r' && c == '\n' <;> simp [staysWith, hend, isLeading_ascii hp, hc]

theorem isAsciiCluster_of_clustersFrom {cluster cs : List Char} (h : ∀ c ∈ cs, c.toNat < 128)
    (hcluster : IsAsciiCluster cluster.reverse) :
    ∀ g ∈ clustersFrom cluster cs, IsAsciiCluster g := by
  induction cs generalizing cluster with
  | nil => simpa [clustersFrom] using hcluster
  | cons c cs ih =>
    obtain ⟨hc, hcs⟩ := List.forall_mem_cons.mp h
    -- The open cluster is one letter, which a line feed may go on with, or a line end.
    obtain ⟨p, hp, rfl⟩ | rfl :
        (∃ p : Char, p.toNat < 128 ∧ cluster = [p]) ∨ cluster = ['\n', '\r'] := by
      generalize hg : cluster.reverse = g at hcluster
      cases hcluster with
      | @letter p hp => exact .inl ⟨p, hp, by simpa using congrArg List.reverse hg⟩
      | lineEnd => exact .inr (by simpa using congrArg List.reverse hg)
    · cases hend : p == '\r' && c == '\n' with
      | true =>
        have hstays : staysWith [p] c = true := by rw [staysWith_ascii hp hc, hend]
        simp only [Bool.and_eq_true, beq_iff_eq] at hend
        obtain ⟨rfl, rfl⟩ := hend
        rw [clustersFrom, if_pos hstays]
        exact ih hcs .lineEnd
      | false =>
        have hstays : ¬staysWith [p] c = true := by simp [staysWith_ascii hp hc, hend]
        rw [clustersFrom, if_neg hstays, List.forall_mem_cons]
        exact ⟨.letter hp, ih hcs (.letter hc)⟩
    · have hstays : ¬staysWith ['\n', '\r'] c = true := by
        simp [staysWith_ascii (p := '\n') (by decide) hc]
      rw [clustersFrom, if_neg hstays, List.forall_mem_cons]
      exact ⟨.lineEnd, ih hcs (.letter hc)⟩

/-- **A text of ASCII characters** is cut into single ones and line ends. -/
theorem isAsciiCluster_of_mem_clusters {cs g : List Char} (h : ∀ c ∈ cs, c.toNat < 128)
    (hg : g ∈ clusters cs) : IsAsciiCluster g := by
  cases cs with
  | nil => exact absurd hg List.not_mem_nil
  | cons c cs =>
    obtain ⟨hc, hcs⟩ := List.forall_mem_cons.mp h
    have hopen : IsAsciiCluster [c].reverse := .letter hc
    exact isAsciiCluster_of_clustersFrom hcs hopen g hg

/-- A cluster is of the kinds that its last letter is of. -/
structure EndsIn (g : List Char) (p : Char) : Prop where
  small : isSmall g = p.isLower
  capital : isCapital g = p.isUpper
  numeral : isNumeral g = p.isDigit

theorem endsIn_letter {c : Char} (hc : c.toNat < 128) : EndsIn [c] c :=
  ⟨isSmall_ascii hc, isCapital_ascii hc, by simp [isNumeral]⟩

theorem endsIn_lineEnd : EndsIn ['\r', '\n'] '\n' := ⟨by decide, by decide, by decide⟩

theorem any_isSmall_head? {gs : List (List Char)} (h : ∀ g ∈ gs, IsAsciiCluster g) :
    gs.head?.any isSmall = gs.flatten.head?.any Char.isLower := by
  cases gs with
  | nil => rfl
  | cons g gs =>
    cases h g List.mem_cons_self with
    | letter hc => exact isSmall_ascii hc
    | lineEnd =>
      show isSmall ['\r', '\n'] = '\r'.isLower
      decide

/-- **Words begin** at the same places, whether clusters are looked at or letters. -/
theorem beginsWord_iff {g : List Char} {p c : Char} {gs : List (List Char)} (hg : EndsIn g p)
    (hc : c.toNat < 128) (hgs : ∀ g ∈ gs, IsAsciiCluster g) :
    beginsWord g [c] gs.head? = true ↔ Begins p c gs.flatten.head? := by
  rw [beginsWord, isCapital_ascii hc, hg.small, hg.capital, hg.numeral, any_isSmall_head? hgs]
  simp only [Begins, Bool.and_eq_true, Bool.or_eq_true, Option.any_eq_true, or_assoc]
  rfl

/-! ## Words -/

/-- Words in lower case, with underscores between them; empty ones do not count. -/
def joinWords (ws : List (List Char)) : List Char :=
  List.intercalate ['_'] ((ws.filter (· != [])).map (List.map Char.toLower))

theorem joinWords_nil_cons (ws : List (List Char)) : joinWords ([] :: ws) = joinWords ws := rfl

theorem joinWords_cons {w : List Char} (hw : w ≠ []) (ws : List (List Char)) :
    joinWords (w :: ws) = w.map Char.toLower ++ parted (joinWords ws) := by
  have hkeep : (w :: ws).filter (· != []) = w :: ws.filter (· != []) := by simp [hw]
  rw [joinWords, hkeep, joinWords]
  cases hws : ws.filter (· != []) with
  | nil => simp [parted]
  | cons v vs =>
    have hv : v ≠ [] := by
      have hmem : v ∈ ws.filter (· != []) := hws ▸ List.mem_cons_self
      simpa using (List.mem_filter.mp hmem).2
    rw [List.map_cons, List.map_cons, List.intercalate_cons_cons, parted, if_neg, List.append_assoc]
    · rfl
    · cases vs <;> simp [hv]

theorem wordsFrom_of_begins {previous : Option (List Char)} {g : List Char}
    {gs : List (List Char)} (hg : isSeparator g = false)
    (hb : (previous.any fun p => beginsWord p g gs.head?) = true) (word : List Char) :
    wordsFrom previous word (g :: gs) = word :: wordsFrom (some g) g gs := by
  rw [wordsFrom, if_neg (by simp [hg]), if_pos hb]

theorem wordsFrom_of_not_begins {previous : Option (List Char)} {g : List Char}
    {gs : List (List Char)} (hg : isSeparator g = false)
    (hb : (previous.any fun p => beginsWord p g gs.head?) = false) (word : List Char) :
    wordsFrom previous word (g :: gs) = wordsFrom (some g) (word ++ g) gs := by
  rw [wordsFrom, if_neg (by simp [hg]), if_neg (by simp [hb])]

/-- How far a name has been read: the last cluster, the word under way, and the last letter that
was kept, unless a separator has come since. -/
inductive Stands : Option (List Char) → List Char → Option Char → Prop where
  | start : Stands none [] none
  | gap {c : Char} (h : isGap c = true) : Stands (some [c]) [] none
  | word {g w : List Char} {p : Char} (hw : w ≠ []) (h : EndsIn g p) : Stands (some g) w (some p)

theorem isSeparator_letter (c : Char) : isSeparator [c] = isGap c := by
  simp [isSeparator, isGap]

/-- No word begins right behind a separator. -/
theorem beginsWord_of_isGap {c : Char} (h : isGap c = true) (g : List Char)
    (next : Option (List Char)) : beginsWord [c] g next = false := by
  simp only [isGap, Bool.or_eq_true, beq_iff_eq] at h
  have hc : c.toNat < 128 := by rcases h with (rfl | rfl) | rfl <;> decide
  rw [beginsWord, isSmall_ascii hc, isCapital_ascii hc]
  rcases h with (rfl | rfl) | rfl <;> simp [isNumeral]

/-- A letter that is kept: it begins a word, after which an underscore stands, or goes on with
one. -/
theorem joinWords_letter {c : Char} (hc : c.toNat < 128) (hkeep : isGap c = false)
    {gs : List (List Char)} (hgs : ∀ g ∈ gs, IsAsciiCluster g)
    (ih : ∀ {word : List Char}, word ≠ [] → joinWords (wordsFrom (some [c]) word gs) =
      word.map Char.toLower ++ spellFrom (some c) false gs.flatten)
    {previous : Option (List Char)} {word : List Char} {last : Option Char}
    (h : Stands previous word last) : joinWords (wordsFrom previous word ([c] :: gs)) =
      word.map Char.toLower ++ (mark last false c gs.flatten.head? ++
        c.toLower :: spellFrom (some c) false gs.flatten) := by
  have hsep : isSeparator [c] = false := by rw [isSeparator_letter, hkeep]
  have hnew := ih (List.cons_ne_nil c [])
  cases h with
  | start =>
    rw [wordsFrom_of_not_begins hsep rfl, List.nil_append, hnew]
    rfl
  | gap hgap =>
    rw [wordsFrom_of_not_begins hsep (by simp [beginsWord_of_isGap hgap]), List.nil_append, hnew]
    rfl
  | @word g _ p hw hends =>
    by_cases hb : Begins p c gs.flatten.head?
    · have hword : ((some g).any fun p => beginsWord p [c] gs.head?) = true :=
        (beginsWord_iff hends hc hgs).mpr hb
      rw [wordsFrom_of_begins hsep hword, joinWords_cons hw, hnew]
      simp [mark, hb, parted]
    · have hword : ((some g).any fun p => beginsWord p [c] gs.head?) = false :=
        Bool.eq_false_iff.mpr (mt (beginsWord_iff hends hc hgs).mp hb)
      rw [wordsFrom_of_not_begins hsep hword, ih (by simp)]
      simp [mark, hb]

/-- **Clusters and words** come to the same as the one pass over the letters. -/
theorem joinWords_wordsFrom {gs : List (List Char)} (hgs : ∀ g ∈ gs, IsAsciiCluster g)
    {previous : Option (List Char)} {word : List Char} {last : Option Char}
    (h : Stands previous word last) : joinWords (wordsFrom previous word gs) =
      word.map Char.toLower ++ spellFrom last false gs.flatten := by
  induction gs generalizing previous word last with
  | nil =>
    cases h with
    | start => rfl
    | gap => rfl
    | word hw =>
      rw [wordsFrom, joinWords_cons hw]
      rfl
  | cons g gs ih =>
    obtain ⟨hg, hrest⟩ := List.forall_mem_cons.mp hgs
    cases hg with
    | lineEnd =>
      have hb : (previous.any fun p => beginsWord p ['\r', '\n'] gs.head?) = false := by
        have hcapital : isCapital ['\r', '\n'] = false := by decide
        simp [beginsWord, hcapital]
      have hspelt : spellFrom last false ('\r' :: '\n' :: gs.flatten) =
          '\r' :: '\n' :: spellFrom (some '\n') false gs.flatten := by
        rw [spellFrom_of_not_isGap rfl, spellFrom_of_not_isGap rfl, mark_of_not_isUpper rfl,
          mark_of_not_isUpper rfl]
        rfl
      rw [wordsFrom_of_not_begins (by decide) hb, ih hrest (.word (by simp) endsIn_lineEnd),
        List.flatten_cons, List.cons_append, List.singleton_append, hspelt]
      simp
    | @letter c hc =>
      rw [List.flatten_cons, List.singleton_append]
      cases hgap : isGap c with
      | true =>
        have hsep : isSeparator [c] = true := by rw [isSeparator_letter, hgap]
        rw [wordsFrom, if_pos hsep, spellFrom_of_isGap hgap]
        have hrestSpelt := ih hrest (.gap hgap)
        cases h with
        | start => rw [joinWords_nil_cons, hrestSpelt, spellFrom_none true]
        | gap => rw [joinWords_nil_cons, hrestSpelt, spellFrom_none true]
        | word hw =>
          rw [joinWords_cons hw, hrestSpelt, spellFrom_some_true]
          rfl
      | false =>
        rw [spellFrom_of_not_isGap hgap]
        exact joinWords_letter hc hgap hrest (fun hw => ih hrest (.word hw (endsIn_letter hc))) h

/-- Words hold only what the name holds. -/
theorem mem_of_mem_wordsFrom {c : Char} {w : List Char} (hc : c ∈ w) {gs : List (List Char)}
    {previous : Option (List Char)} {word : List Char} (hw : w ∈ wordsFrom previous word gs) :
    c ∈ word ∨ c ∈ gs.flatten := by
  induction gs generalizing previous word with
  | nil =>
    obtain rfl := List.mem_singleton.mp hw
    exact .inl hc
  | cons g gs ih =>
    rw [wordsFrom] at hw
    rw [List.flatten_cons, List.mem_append]
    split at hw
    · rcases List.mem_cons.mp hw with rfl | hw
      · exact .inl hc
      · exact .inr (.inr ((ih hw).resolve_left List.not_mem_nil))
    · split at hw
      · rcases List.mem_cons.mp hw with rfl | hw
        · exact .inl hc
        · exact .inr (ih hw)
      · rcases ih hw with h | h
        · exact (List.mem_append.mp h).imp_right .inl
        · exact .inr (.inr h)

/-- **A name of ASCII characters** is spelt in the one pass. -/
theorem underscoreChars_eq {name : List Char} (h : ∀ c ∈ name, c.toNat < 128) :
    underscoreChars name = spellFrom none false name := by
  have hlower : (words name).map lower = (words name).map (List.map Char.toLower) := by
    refine List.map_congr_left fun w hw => lowerAfter_ascii (fun c hc => h c ?_) []
    have hfrom := mem_of_mem_wordsFrom hc (List.mem_filter.mp hw).1
    rw [flatten_clusters] at hfrom
    exact hfrom.resolve_left List.not_mem_nil
  calc underscoreChars name
      = joinWords (wordsFrom none [] (clusters name)) := by rw [underscoreChars, hlower]; rfl
    _ = spellFrom none false name := by
        rw [joinWords_wordsFrom (fun g => isAsciiCluster_of_mem_clusters h) .start,
          flatten_clusters]
        rfl

end RowFilter.Text
