import RowFilter.Proofs.Sql.Fragment

/-!
# Tokens of SQL text

The lexical rules of a dialect, as an automaton that goes through a text character by character. A
word is the longest run of letters, digits and underscores: a number if it begins with a digit, a
keyword if it is a reserved word in any case, and a name otherwise. The quotes of the dialect
enclose names of any kind, apostrophes enclose literals, and a placeholder is a word after the mark
of the dialect.

Headlines:
* `scan_append`: a text is gone through part by part;
* `Lexes.append`: texts that stand for tokens of their own stand for all of them in a row, if the
  second does not go on with a word of the first;
* `lexes_column` and `lexes_placeholder`: a column stands for its segments with dots between them,
  and a placeholder for itself.
-/

namespace RowFilter.Sql

/-! ## Tokens -/

/-- A token of SQL text. -/
inductive Token where
  /-- A reserved word, in lower case. -/
  | keyword (word : String)
  | name (word : String)
  | number (word : String)
  /-- What stands between the quotes of an identifier. -/
  | quoted (content : String)
  /-- What stands between apostrophes, without the backslashes that escape. -/
  | literal (content : String)
  /-- A placeholder with its mark. -/
  | placeholder (word : String)
  | sign (text : String)
  deriving DecidableEq

/-- The token of a run of letters, digits and underscores. -/
def wordToken (word : List Char) : Token :=
  if word.head?.any Char.isDigit then .number (.ofList word)
  else if reserved.contains (.ofList (word.map Char.toLower)) then
    .keyword (.ofList (word.map Char.toLower))
  else .name (.ofList word)

/-- The text is a placeholder of the dialect. -/
def Dialect.isPlaceholder (d : Dialect) (word : List Char) : Bool :=
  match d, word with
  | .postgresql, '$' :: digits => !digits.isEmpty && digits.all Char.isDigit
  | .mssql, '@' :: 'P' :: digits => !digits.isEmpty && digits.all Char.isDigit
  | .mysql, ['?'] | .sqlite, ['?'] => true
  | _, _ => false

/-! ## The automaton -/

/-- How far the token under way has been read. -/
inductive Scan where
  | between
  | word (text : List Char)
  | placeholder (text : List Char)
  /-- A sign that another character may complete. -/
  | sign (c : Char)
  | quoted (content : List Char)
  | literal (content : List Char)
  /-- After a backslash in a literal that escapes the next character. -/
  | escaped (content : List Char)
  deriving DecidableEq

namespace Scan

/-- The token that ends here, if one may. -/
def finish (d : Dialect) : Scan → Option (List Token)
  | between => some []
  | word text => some [wordToken text]
  | placeholder text =>
    if d.isPlaceholder text then some [.placeholder (.ofList text)] else none
  | sign c => some [.sign (.ofList [c])]
  | quoted _ | literal _ | escaped _ => none

/-- What a character begins. -/
def begin (d : Dialect) (c : Char) : Option (List Token × Scan) :=
  if c = ' ' then some ([], between)
  else if isNameChar c then some ([], word [c])
  else if c = d.quotes.1 then some ([], quoted [])
  else if c = '\'' then some ([], literal [])
  else if c = '$' || c = '@' || c = '?' then some ([], placeholder [c])
  else if c = '<' || c = '>' then some ([], sign c)
  else if c = '(' || c = ')' || c = ',' || c = '.' || c = '=' then
    some ([.sign (.ofList [c])], between)
  else none

/-- A character after the end of a token. -/
def next (d : Dialect) (s : Scan) (c : Char) : Option (List Token × Scan) :=
  (s.finish d).bind fun ended => (begin d c).map fun (tokens, s) => (ended ++ tokens, s)

/-- One character more. -/
def step (d : Dialect) (c : Char) : Scan → Option (List Token × Scan)
  | between => between.next d c
  | word text => if isNameChar c then some ([], word (text ++ [c])) else (word text).next d c
  | placeholder text =>
    if isNameChar c then some ([], placeholder (text ++ [c])) else (placeholder text).next d c
  | sign before =>
    if [before, c] ∈ [['<', '='], ['>', '='], ['<', '>']] then
      some ([.sign (.ofList [before, c])], between)
    else (sign before).next d c
  | quoted content =>
    if c = d.quotes.2 then some ([.quoted (.ofList content)], between)
    else some ([], quoted (content ++ [c]))
  | literal content =>
    if c = '\'' then some ([.literal (.ofList content)], between)
    else if c = '\\' && d = .mysql then some ([], escaped content)
    else some ([], literal (content ++ [c]))
  | escaped content => some ([], literal (content ++ [c]))

end Scan

/-- Goes through a text: the tokens that ended in it, and how far the one under way was read. -/
def scan (d : Dialect) : Scan → List Char → Option (List Token × Scan)
  | s, [] => some ([], s)
  | s, c :: cs =>
    (s.step d c).bind fun (ended, s) => (scan d s cs).map fun (more, s) => (ended ++ more, s)

/-- The tokens of a text, unless some of it is no token. -/
def tokens (d : Dialect) (text : List Char) : Option (List Token) :=
  (scan d .between text).bind fun (ended, s) => (s.finish d).map (ended ++ ·)

example : tokens .mssql "([user].a1 <> @P12)".toList =
    some [.sign "(", .quoted "user", .sign ".", .name "a1", .sign "<>", .placeholder "@P12",
      .sign ")"] := by
  decide

variable {d : Dialect}

theorem scan_append (s : Scan) (a b : List Char) :
    scan d s (a ++ b) =
      (scan d s a).bind fun r => (scan d r.2 b).map fun q => (r.1 ++ q.1, q.2) := by
  induction a generalizing s with
  | nil => simp [scan]
  | cons c a ih =>
    simp only [List.cons_append, scan, ih]
    cases s.step d c with
    | none => rfl
    | some r =>
      simp only [Option.bind_some]
      cases scan d r.2 a with
      | none => rfl
      | some q =>
        simp only [Option.bind_some, Option.map_some, Option.map_map, Function.comp_def,
          List.append_assoc]

/-! ## Runs of characters of one kind -/

theorem scan_word {cs : List Char} (h : ∀ c ∈ cs, isNameChar c = true) (text : List Char) :
    scan d (.word text) cs = some ([], .word (text ++ cs)) := by
  induction cs generalizing text with
  | nil => simp [scan]
  | cons c cs ih =>
    rw [List.forall_mem_cons] at h
    simp [scan, Scan.step, h.1, ih h.2]

theorem scan_placeholder {cs : List Char} (h : ∀ c ∈ cs, isNameChar c = true)
    (text : List Char) : scan d (.placeholder text) cs = some ([], .placeholder (text ++ cs)) := by
  induction cs generalizing text with
  | nil => simp [scan]
  | cons c cs ih =>
    rw [List.forall_mem_cons] at h
    simp [scan, Scan.step, h.1, ih h.2]

theorem scan_quoted {cs : List Char} (h : ∀ c ∈ cs, c ≠ d.quotes.2) (content : List Char) :
    scan d (.quoted content) cs = some ([], .quoted (content ++ cs)) := by
  induction cs generalizing content with
  | nil => simp [scan]
  | cons c cs ih =>
    rw [List.forall_mem_cons] at h
    simp [scan, Scan.step, h.1, ih h.2]

/-! ## Texts that stand for tokens -/

/-- Whatever is no letter, digit or underscore ends the token under way. -/
def Scan.IsLoose : Scan → Prop
  | between | word _ | placeholder _ => True
  | sign _ | quoted _ | literal _ | escaped _ => False

theorem Scan.step_of_isLoose {s : Scan} (hs : s.IsLoose) {c : Char}
    (hc : isNameChar c = false) : s.step d c = s.next d c := by
  cases s with
  | between => rfl
  | word text => simp [step, hc]
  | placeholder text => simp [step, hc]
  | sign _ | quoted _ | literal _ | escaped _ => exact hs.elim

theorem scan_cons_between (c : Char) (cs : List Char) :
    scan d .between (c :: cs) =
      (Scan.begin d c).bind fun r => (scan d r.2 cs).map fun q => (r.1 ++ q.1, q.2) := by
  rw [scan]
  congr 1
  simp [Scan.step, Scan.next, Scan.finish]

theorem scan_of_isLoose {s : Scan} {ended : List Token} (hs : s.IsLoose)
    (he : s.finish d = some ended) {c : Char} (hc : isNameChar c = false) (cs : List Char) :
    scan d s (c :: cs) = (scan d .between (c :: cs)).map fun r => (ended ++ r.1, r.2) := by
  rw [scan, scan_cons_between, Scan.step_of_isLoose hs hc, Scan.next, he, Option.bind_some]
  cases Scan.begin d c with
  | none => rfl
  | some r =>
    cases h : scan d r.2 cs with
    | none => simp [h]
    | some q => simp [h]

/-- The text stands for these tokens, if no letter, digit or underscore comes next. -/
def Lexes (d : Dialect) (text : List Char) (ts : List Token) : Prop :=
  ∃ before s ended, scan d .between text = some (before, s) ∧ s.IsLoose ∧
    s.finish d = some ended ∧ ts = before ++ ended

/-- The text stands for these tokens, whatever comes next. -/
def Closes (d : Dialect) (text : List Char) (ts : List Token) : Prop :=
  scan d .between text = some (ts, .between)

instance {text : List Char} {ts : List Token} : Decidable (Closes d text ts) :=
  inferInstanceAs (Decidable (_ = _))

theorem Closes.lexes {text : List Char} {ts : List Token} (h : Closes d text ts) :
    Lexes d text ts :=
  ⟨ts, .between, [], h, trivial, rfl, (List.append_nil ts).symm⟩

theorem Closes.append {a b : List Char} {ts us : List Token} (ha : Closes d a ts)
    (hb : Lexes d b us) : Lexes d (a ++ b) (ts ++ us) := by
  obtain ⟨before, s, ended, hscan, hs, he, rfl⟩ := hb
  refine ⟨ts ++ before, s, ended, ?_, hs, he, by simp⟩
  rw [scan_append, ha, Option.bind_some, hscan, Option.map_some]

/-- **Tokens in a row**: the second text must not go on with a word of the first. -/
theorem Lexes.append {a b : List Char} {ts us : List Token} (ha : Lexes d a ts)
    (hb : Lexes d b us) (hc : ∀ c ∈ b.head?, isNameChar c = false) :
    Lexes d (a ++ b) (ts ++ us) := by
  obtain ⟨before, s, ended, hscan, hs, he, rfl⟩ := ha
  obtain ⟨before', s', ended', hscan', hs', he', rfl⟩ := hb
  cases b with
  | nil =>
    obtain ⟨rfl, rfl⟩ := Prod.mk.inj (Option.some.inj hscan')
    obtain rfl := Option.some.inj he'
    exact ⟨before, s, ended, by simpa using hscan, hs, he, by simp⟩
  | cons c b =>
    refine ⟨before ++ (ended ++ before'), s', ended', ?_, hs', he', by simp⟩
    rw [scan_append, hscan, Option.bind_some, scan_of_isLoose hs he (hc c rfl), hscan']
    rfl

theorem Lexes.appendCloses {a b : List Char} {ts us : List Token} (ha : Lexes d a ts)
    (hb : Closes d b us) (hne : b ≠ []) (hc : ∀ c ∈ b.head?, isNameChar c = false) :
    Closes d (a ++ b) (ts ++ us) := by
  obtain ⟨before, s, ended, hscan, hs, he, rfl⟩ := ha
  obtain ⟨c, b, rfl⟩ := List.exists_cons_of_ne_nil hne
  rw [Closes, scan_append, hscan, Option.bind_some, scan_of_isLoose hs he (hc c rfl), hb]
  simp

theorem Lexes.tokens_eq {text : List Char} {ts : List Token} (h : Lexes d text ts) :
    tokens d text = some ts := by
  obtain ⟨before, s, ended, hscan, -, he, rfl⟩ := h
  simp only [tokens, hscan, Option.bind_some, he, Option.map_some]

/-! ## Placeholders -/

theorem isNameChar_of_isDigit {c : Char} (h : c.isDigit = true) : isNameChar c = true := by
  simp [isNameChar, Char.isAlphanum, h]

theorem isDigit_of_mem_toString {n : Nat} {c : Char} (h : c ∈ (toString n).toList) :
    c.isDigit = true := by
  rw [Nat.toString_eq_ofList_toDigits, String.toList_ofList] at h
  exact Nat.isDigit_of_mem_toDigits (by decide) (by decide) h

theorem toList_toString_ne_nil (n : Nat) : (toString n).toList ≠ [] := by
  rw [Nat.toString_eq_ofList_toDigits, String.toList_ofList]
  exact Nat.toDigits_ne_nil

theorem isPlaceholder_placeholder (d : Dialect) (n : Nat) :
    d.isPlaceholder (d.placeholder n).toList = true := by
  have hdigits : (toString n).toList.all Char.isDigit = true :=
    List.all_eq_true.mpr fun c hc => isDigit_of_mem_toString hc
  have hnumber : (!(toString n).toList.isEmpty && (toString n).toList.all Char.isDigit) = true := by
    rw [hdigits, Bool.and_true, Bool.not_eq_true', List.isEmpty_eq_false_iff]
    exact toList_toString_ne_nil n
  cases d with
  | postgresql =>
    rw [Dialect.placeholder, String.toList_append]
    exact hnumber
  | mssql =>
    rw [Dialect.placeholder, String.toList_append]
    exact hnumber
  | mysql => exact (by decide : Dialect.mysql.isPlaceholder "?".toList = true)
  | sqlite => exact (by decide : Dialect.sqlite.isPlaceholder "?".toList = true)

/-- The characters of a placeholder: the mark, and nothing that a word may not hold. -/
theorem exists_placeholder_eq (d : Dialect) (n : Nat) :
    ∃ c cs, (d.placeholder n).toList = c :: cs ∧ (c = '$' ∨ c = '@' ∨ c = '?') ∧
      ∀ c ∈ cs, isNameChar c = true := by
  have hdigits : ∀ c ∈ (toString n).toList, isNameChar c = true := fun c hc =>
    isNameChar_of_isDigit (isDigit_of_mem_toString hc)
  cases d with
  | postgresql =>
    refine ⟨'$', (toString n).toList, ?_, .inl rfl, hdigits⟩
    rw [Dialect.placeholder, String.toList_append]
    rfl
  | mssql =>
    refine ⟨'@', 'P' :: (toString n).toList, ?_, .inr (.inl rfl), ?_⟩
    · rw [Dialect.placeholder, String.toList_append]
      rfl
    · exact List.forall_mem_cons.mpr ⟨rfl, hdigits⟩
  | mysql => exact ⟨'?', [], (by decide : "?".toList = ['?']), .inr (.inr rfl), by simp⟩
  | sqlite => exact ⟨'?', [], (by decide : "?".toList = ['?']), .inr (.inr rfl), by simp⟩

theorem begin_mark {c : Char} (h : c = '$' ∨ c = '@' ∨ c = '?') :
    Scan.begin d c = some ([], .placeholder [c]) := by
  rcases h with rfl | rfl | rfl <;> cases d <;> decide

theorem lexes_placeholder (n : Nat) :
    Lexes d (d.placeholder n).toList [.placeholder (d.placeholder n)] := by
  have hp := isPlaceholder_placeholder d n
  obtain ⟨c, cs, heq, hc, hcs⟩ := exists_placeholder_eq d n
  rw [heq] at hp
  refine ⟨[], .placeholder (c :: cs), [.placeholder (.ofList (c :: cs))], ?_, trivial, ?_, ?_⟩
  · rw [heq, scan_cons_between, begin_mark hc, Option.bind_some, scan_placeholder hcs]
    rfl
  · rw [Scan.finish, if_pos hp]
  · rw [← heq, String.ofList_toList, List.nil_append]

/-! ## Columns -/

/-- The token of a segment of a column. -/
def segmentToken (segment : List Char) : Token :=
  if needsQuoting segment then .quoted (.ofList segment) else .name (.ofList segment)

/-- The tokens of the segments of a column, with dots between them. -/
def pathTokens : List (List Char) → List Token
  | [] => []
  | [segment] => [segmentToken segment]
  | segment :: next :: rest => segmentToken segment :: .sign "." :: pathTokens (next :: rest)

theorem joinDots_cons_cons (a b : List Char) (rest : List (List Char)) :
    joinDots (a :: b :: rest) = a ++ ['.'] ++ joinDots (b :: rest) := by
  simp [joinDots, List.intercalate]

theorem wordToken_of_needsQuoting {segment : List Char} (h : needsQuoting segment = false) :
    wordToken segment = .name (.ofList segment) := by
  obtain ⟨hreserved, hdigit⟩ := Bool.or_eq_false_iff.mp h
  rw [wordToken, hdigit, hreserved]
  rfl

theorem begin_isNameChar {c : Char} (h : isNameChar c = true) :
    Scan.begin d c = some ([], .word [c]) := by
  have hblank : c ≠ ' ' := fun hc => absurd (hc ▸ h) (by decide)
  rw [Scan.begin, if_neg hblank, if_pos h]

theorem isNameChar_quotes (d : Dialect) :
    isNameChar d.quotes.1 = false ∧ isNameChar d.quotes.2 = false := by
  cases d <;> decide

theorem begin_quote (d : Dialect) : Scan.begin d d.quotes.1 = some ([], .quoted []) := by
  cases d <;> decide

theorem lexes_segment {segment : List Char} (h : isSafeSegment segment = true) :
    Lexes d (segmentChars d segment) [segmentToken segment] := by
  obtain ⟨hne, hall⟩ := Bool.and_eq_true_iff.mp h
  rw [List.all_eq_true] at hall
  unfold segmentChars segmentToken
  by_cases hq : needsQuoting segment = true
  · -- A safe segment does not hold the quote that would end it early.
    have hquote : ∀ c ∈ segment, c ≠ d.quotes.2 := fun c hc heq =>
      absurd (hall c hc) (by rw [heq, (isNameChar_quotes d).2]; decide)
    rw [if_pos hq, if_pos hq]
    refine Closes.lexes ?_
    rw [Closes, Dialect.quoteChars, scan_cons_between, begin_quote, Option.bind_some, scan_append,
      scan_quoted hquote]
    simp [scan, Scan.step]
  · rw [if_neg hq, if_neg hq]
    rw [Bool.not_eq_true] at hq
    obtain ⟨c, cs, rfl⟩ : ∃ c cs, segment = c :: cs :=
      List.exists_cons_of_ne_nil (by rintro rfl; exact absurd hne (by decide))
    obtain ⟨hc, hcs⟩ := List.forall_mem_cons.mp hall
    refine ⟨[], .word (c :: cs), [.name (.ofList (c :: cs))], ?_, trivial, ?_, rfl⟩
    · rw [scan_cons_between, begin_isNameChar hc, Option.bind_some, scan_word hcs]
      rfl
    · rw [Scan.finish, wordToken_of_needsQuoting hq]

theorem lexes_path : ∀ {segments : List (List Char)}, segments ≠ [] →
    (∀ s ∈ segments, isSafeSegment s = true) →
    Lexes d (joinDots (segments.map (segmentChars d))) (pathTokens segments)
  | [], hne, _ => absurd rfl hne
  | [s], _, h => by
    have hs := lexes_segment (d := d) (h s List.mem_cons_self)
    simpa [joinDots, List.intercalate, pathTokens] using hs
  | s :: t :: rest, _, h => by
    obtain ⟨hs, hrest⟩ := List.forall_mem_cons.mp h
    have hdot : Closes d ['.'] [.sign "."] := by cases d <;> decide
    have hapart : ∀ c ∈ ['.'].head?, isNameChar c = false := by
      rintro _ ⟨⟩
      rfl
    rw [List.map_cons, List.map_cons, joinDots_cons_cons, ← List.map_cons]
    exact ((lexes_segment hs).appendCloses hdot (List.cons_ne_nil _ _) hapart).append
      (lexes_path (List.cons_ne_nil _ _) hrest)

/-- **A column** stands for its segments with dots between them. -/
theorem lexes_column {column : String} (h : isSafe column = true) :
    Lexes d (columnText d column).toList (pathTokens (splitDots column.toList)) := by
  rw [columnText, String.toList_ofList]
  exact lexes_path (splitDots_ne_nil _) (List.all_eq_true.mp h)

end RowFilter.Sql
