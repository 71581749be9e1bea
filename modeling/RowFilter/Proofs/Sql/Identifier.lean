import RowFilter.Proofs.Sql.Token

/-!
# Identifiers as they are written

A safe name is written segment by segment, with the dots of the name between them. A segment stands
between the quotes of the dialect if it is a reserved word in any case or begins with a digit, and
bare otherwise; nothing else is added, and nothing is left out. So the quotes can be taken away
again, and two names are never written the same.

Headlines:
* `writesName_column`: this is how a column is written;
* `isSafe_qualified`: a name with an alias before it is safe exactly when both are;
* `quoteIdentifier_eq_ok_iff_writesName`: a name is quoted as it is written, and in no other way;
* `exists_quoteIdentifier_eq_ok_iff`: exactly the paths can be quoted;
* **`quoteIdentifier_lossless`**: quoting lets no other name pass and loses nothing.
-/

namespace RowFilter.Sql

variable {d : Dialect}

/-- The segment is a reserved word in any case, or begins with a digit. -/
def MustQuote (segment : List Char) : Prop :=
  String.ofList (segment.map Char.toLower) ∈ reserved ∨ ∃ c ∈ segment.head?, c.isDigit = true

theorem needsQuoting_iff {segment : List Char} :
    needsQuoting segment = true ↔ MustQuote segment := by
  rw [needsQuoting, MustQuote, Bool.or_eq_true, List.contains_iff_mem, Option.any_eq_true]
  rfl

/-- How a segment is written: between quotes if it must be, and else as it is. -/
inductive WritesSegment (d : Dialect) (segment : List Char) : List Char → Prop where
  | quoted (h : MustQuote segment) :
      WritesSegment d segment (d.quotes.1 :: (segment ++ [d.quotes.2]))
  | bare (h : ¬MustQuote segment) : WritesSegment d segment segment

/-- How a name is written: its segments, each of them letters, digits and underscores, with dots
between them. -/
inductive WritesName (d : Dialect) : List Char → List Char → Prop where
  | last {segment text : List Char} (hs : isSafeSegment segment = true)
      (ht : WritesSegment d segment text) : WritesName d segment text
  | dot {segment text rest more : List Char} (hs : isSafeSegment segment = true)
      (ht : WritesSegment d segment text) (h : WritesName d rest more) :
      WritesName d (segment ++ '.' :: rest) (text ++ '.' :: more)

theorem writesSegment_segmentChars (segment : List Char) :
    WritesSegment d segment (segmentChars d segment) := by
  unfold segmentChars
  by_cases h : needsQuoting segment = true
  · rw [if_pos h]
    exact .quoted (needsQuoting_iff.mp h)
  · rw [if_neg h]
    exact .bare fun hquote => h (needsQuoting_iff.mpr hquote)

theorem writesName_joinDots : ∀ {segments : List (List Char)}, segments ≠ [] →
    (∀ s ∈ segments, isSafeSegment s = true) →
    WritesName d (joinDots segments) (joinDots (segments.map (segmentChars d)))
  | [], hne, _ => absurd rfl hne
  | [s], _, h => by
    have hs := WritesName.last (h s List.mem_cons_self) (writesSegment_segmentChars (d := d) s)
    simpa [joinDots, List.intercalate] using hs
  | s :: t :: rest, _, h => by
    obtain ⟨hs, hrest⟩ := List.forall_mem_cons.mp h
    have hmore := writesName_joinDots (List.cons_ne_nil t rest) hrest
    rw [List.map_cons] at hmore
    rw [List.map_cons, List.map_cons, joinDots_cons_cons, joinDots_cons_cons, List.append_assoc,
      List.append_assoc]
    exact .dot hs (writesSegment_segmentChars s) hmore

/-- **A column** is written as its name is. -/
theorem writesName_column {column : String} (h : isSafe column = true) :
    WritesName d column.toList (columnText d column).toList := by
  have hname := writesName_joinDots (d := d) (splitDots_ne_nil column.toList)
    (List.all_eq_true.mp h)
  rwa [joinDots_splitDots, ← String.toList_ofList (l := joinDots _)] at hname

/-! ## Qualified names -/

/-- The pieces of two names with a dot between them are those of the one and of the other. -/
theorem splitDots_append_dot (a b : List Char) :
    splitDots (a ++ '.' :: b) = splitDots a ++ splitDots b := by
  induction a with
  | nil => simp [splitDots]
  | cons c a ih =>
    rw [List.cons_append, splitDots, splitDots, ih]
    by_cases hc : c = '.'
    · rw [if_pos hc, if_pos hc, List.cons_append]
    · obtain ⟨s, ss, hs⟩ := List.exists_cons_of_ne_nil (splitDots_ne_nil a)
      rw [if_neg hc, if_neg hc, hs]
      rfl

/-- **A name with an alias before it** is safe exactly when both are. -/
theorem isSafe_qualified (tableAlias name : String) :
    isSafe (tableAlias ++ "." ++ name) = (isSafe tableAlias && isSafe name) := by
  have hchars : (tableAlias ++ "." ++ name).toList = tableAlias.toList ++ '.' :: name.toList := by
    simp
  rw [isSafe, hchars, splitDots_append_dot, List.all_append, ← isSafe, ← isSafe]

/-! ## Quoting -/

/-- One or more segments with single dots between them, each of one or more letters, digits and
underscores. -/
inductive IsPath : List Char → Prop where
  | last {segment : List Char} (hne : segment ≠ [])
      (hs : ∀ c ∈ segment, isNameChar c = true) : IsPath segment
  | dot {segment rest : List Char} (hne : segment ≠ [])
      (hs : ∀ c ∈ segment, isNameChar c = true) (h : IsPath rest) :
      IsPath (segment ++ '.' :: rest)

theorem isSafeSegment_iff {segment : List Char} :
    isSafeSegment segment = true ↔ segment ≠ [] ∧ ∀ c ∈ segment, isNameChar c = true := by
  simp [isSafeSegment]

theorem splitDots_segment {segment : List Char} (h : ∀ c ∈ segment, isNameChar c = true) :
    splitDots segment = [segment] := by
  induction segment with
  | nil => rfl
  | cons c cs ih =>
    obtain ⟨hc, hcs⟩ := List.forall_mem_cons.mp h
    have hdot : c ≠ '.' := by
      rintro rfl
      exact absurd hc (by decide)
    rw [splitDots, if_neg hdot, ih hcs]

theorem WritesSegment.eq_segmentChars {segment text : List Char}
    (h : WritesSegment d segment text) : text = segmentChars d segment := by
  cases h with
  | quoted h => rw [segmentChars, if_pos (needsQuoting_iff.mpr h), Dialect.quoteChars]
  | bare h => rw [segmentChars, if_neg (mt needsQuoting_iff.mp h)]

/-- What is written for a name is what its segments are written as. -/
theorem WritesName.splits {name text : List Char} (h : WritesName d name text) :
    (∀ s ∈ splitDots name, isSafeSegment s = true) ∧
      text = joinDots ((splitDots name).map (segmentChars d)) := by
  induction h with
  | @last segment text hs ht =>
    rw [splitDots_segment (isSafeSegment_iff.mp hs).2]
    exact ⟨by simpa using hs, by simp [joinDots, ht.eq_segmentChars]⟩
  | @dot segment text rest more hs ht _ ih =>
    rw [splitDots_append_dot, splitDots_segment (isSafeSegment_iff.mp hs).2, List.singleton_append]
    refine ⟨List.forall_mem_cons.mpr ⟨hs, ih.1⟩, ?_⟩
    obtain ⟨s, ss, hrest⟩ := List.exists_cons_of_ne_nil (splitDots_ne_nil rest)
    rw [ih.2, ht.eq_segmentChars, hrest, List.map_cons, List.map_cons, List.map_cons,
      joinDots_cons_cons, List.append_assoc]
    rfl

/-- **A name is quoted** as it is written, and in no other way. -/
theorem quoteIdentifier_eq_ok_iff_writesName {name text : String} :
    quoteIdentifier d name = .ok text ↔ WritesName d name.toList text.toList := by
  rw [quoteIdentifier_eq_ok_iff]
  constructor
  · rintro ⟨hsafe, rfl⟩
    exact writesName_column hsafe
  · intro h
    obtain ⟨hsafe, htext⟩ := h.splits
    refine ⟨List.all_eq_true.mpr hsafe, ?_⟩
    rw [columnText, ← htext, String.ofList_toList]

theorem WritesName.isPath {name text : List Char} (h : WritesName d name text) : IsPath name := by
  induction h with
  | last hs =>
    obtain ⟨hne, hall⟩ := isSafeSegment_iff.mp hs
    exact .last hne hall
  | dot hs _ _ ih =>
    obtain ⟨hne, hall⟩ := isSafeSegment_iff.mp hs
    exact .dot hne hall ih

theorem IsPath.exists_writesName {name : List Char} (h : IsPath name) :
    ∃ text, WritesName d name text := by
  induction h with
  | last hne hs => exact ⟨_, .last (isSafeSegment_iff.mpr ⟨hne, hs⟩) (writesSegment_segmentChars _)⟩
  | dot hne hs _ ih =>
    obtain ⟨text, htext⟩ := ih
    exact ⟨_, .dot (isSafeSegment_iff.mpr ⟨hne, hs⟩) (writesSegment_segmentChars _) htext⟩

/-- **The names that can be quoted** are the paths. -/
theorem exists_quoteIdentifier_eq_ok_iff {name : String} :
    (∃ text, quoteIdentifier d name = .ok text) ↔ IsPath name.toList := by
  simp only [quoteIdentifier_eq_ok_iff_writesName]
  constructor
  · rintro ⟨text, h⟩
    exact h.isPath
  · intro h
    obtain ⟨text, htext⟩ := h.exists_writesName (d := d)
    exact ⟨String.ofList text, by rwa [String.toList_ofList]⟩

theorem quoteIdentifier_eq_error_iff {name : String} {e : Fault} :
    quoteIdentifier d name = .error e ↔ isSafe name = false ∧ e = unsafeName name := by
  unfold quoteIdentifier checkIdentifier
  cases isSafe name <;> simp [bind, Except.bind, pure, Except.pure, eq_comm]

/-- The character is a quote of the dialect. -/
def Dialect.isQuote (d : Dialect) (c : Char) : Bool := c == d.quotes.1 || c == d.quotes.2

theorem isQuote_of_isNameChar {c : Char} (h : isNameChar c = true) : d.isQuote c = false := by
  refine Bool.eq_false_iff.mpr fun hquote => ?_
  simp only [Dialect.isQuote, Bool.or_eq_true, beq_iff_eq] at hquote
  rcases hquote with rfl | rfl
  · rw [(isNameChar_quotes d).1] at h
    cases h
  · rw [(isNameChar_quotes d).2] at h
    cases h

/-- A text without the quotes of the dialect. -/
def Dialect.unquoted (d : Dialect) (text : List Char) : List Char :=
  text.filter fun c => !d.isQuote c

theorem WritesSegment.unquoted {segment text : List Char} (h : WritesSegment d segment text)
    (hs : ∀ c ∈ segment, isNameChar c = true) : d.unquoted text = segment := by
  have hkeep : d.unquoted segment = segment :=
    List.filter_eq_self.mpr fun c hc => by simp [isQuote_of_isNameChar (hs c hc)]
  cases h with
  | quoted => simpa [Dialect.unquoted, Dialect.isQuote] using hkeep
  | bare => exact hkeep

/-- **Nothing is lost**: without the quotes, what is written for a name is the name. -/
theorem WritesName.unquoted {name text : List Char} (h : WritesName d name text) :
    d.unquoted text = name := by
  induction h with
  | last hs ht => exact ht.unquoted (isSafeSegment_iff.mp hs).2
  | @dot segment text rest more hs ht _ ih =>
    have hdot : d.isQuote '.' = false := by cases d <;> decide
    calc d.unquoted (text ++ '.' :: more)
        = d.unquoted text ++ '.' :: d.unquoted more := by simp [Dialect.unquoted, hdot]
      _ = segment ++ '.' :: rest := by rw [ht.unquoted (isSafeSegment_iff.mp hs).2, ih]

/-- How a dialect quotes a name. -/
structure Dialect.Quotes (d : Dialect) (name : String) : Prop where
  /-- It does so exactly if the name is a path. -/
  exists_ok_iff : (∃ text, quoteIdentifier d name = .ok text) ↔ IsPath name.toList
  /-- Otherwise the configuration is at fault. -/
  refused : ∀ e, quoteIdentifier d name = .error e → e.code = .invalidConfiguration
  /-- Reserved words and segments that begin with a digit stand between quotes, and others bare. -/
  written : ∀ text, quoteIdentifier d name = .ok text → WritesName d name.toList text.toList
  /-- Without the quotes, the text is the name. -/
  unquoted : ∀ text, quoteIdentifier d name = .ok text → d.unquoted text.toList = name.toList
  /-- No other name has the same text. -/
  injective : ∀ text other, quoteIdentifier d name = .ok text →
    quoteIdentifier d other = .ok text → name = other

/-- **Quoting is safe and loses nothing**: in every dialect the paths are quoted and no other names,
segment by segment where they have to be, and what is quoted can be told apart. -/
theorem quoteIdentifier_lossless (d : Dialect) (name : String) : d.Quotes name where
  exists_ok_iff := exists_quoteIdentifier_eq_ok_iff
  refused e he := by
    obtain ⟨-, rfl⟩ := quoteIdentifier_eq_error_iff.mp he
    rfl
  written _ htext := quoteIdentifier_eq_ok_iff_writesName.mp htext
  unquoted _ htext := (quoteIdentifier_eq_ok_iff_writesName.mp htext).unquoted
  injective _ _ htext hother := by
    rw [← String.toList_inj, ← (quoteIdentifier_eq_ok_iff_writesName.mp htext).unquoted,
      ← (quoteIdentifier_eq_ok_iff_writesName.mp hother).unquoted]

/-- A reserved word in capitals and a segment that begins with a digit are quoted, and what lies
between them is not. -/
example : quoteIdentifier .mssql "User.order_no.2nd" = .ok "[User].order_no.[2nd]" := by rfl

end RowFilter.Sql
