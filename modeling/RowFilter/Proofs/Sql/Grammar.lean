import RowFilter.Proofs.Sql.Token

/-!
# The grammar of conditions

What a row of tokens says as a condition. `OR` binds loosest, then `AND`, then `NOT`; parentheses
group, and a group of one is that one. A comparison is a column and what follows it, which is one
of seven forms; the `AND` of a `BETWEEN` stands between its two placeholders and nowhere else.
`1=1` and `1=0` are constants.

Headlines:
* `Reads.unique`: a row of tokens is read in at most one way, and so is the beginning of a longer
  row, if the rest does not go on with the operator of the level;
* `IsReading.unique`: a text has at most one reading.
-/

namespace RowFilter.Sql

/-! ## Conditions -/

/-- What a comparison asks, as far as its text tells. The three kinds of pattern share one text,
and stand as `innerLike`. -/
@[ext]
structure Test where
  /-- The segments of the column. -/
  path : List String
  operator : Operator
  /-- The number of placeholders. -/
  holes : Nat
  deriving DecidableEq

/-- What a text says: comparisons under conjunction, disjunction and negation. -/
inductive Condition where
  | test (t : Test)
  | constant (value : Bool)
  | and (members : List Condition)
  | or (members : List Condition)
  | not (inner : Condition)

namespace Condition

/-- The conjunction of the members, or the member itself where there is just one. -/
def allOf : List Condition → Condition
  | [c] => c
  | cs => and cs

/-- The disjunction of the members, or the member itself where there is just one. -/
def anyOf : List Condition → Condition
  | [c] => c
  | cs => or cs

end Condition

/-! ## Comparisons -/

/-- The name that a token gives, with or without quotes. -/
def Token.segment? : Token → Option String
  | .name word => some word
  | .quoted content => some content
  | _ => none

/-- A column: names with dots between them. -/
inductive ReadsColumn : List Token → List String → Prop where
  | last {t : Token} {s : String} (ht : t.segment? = some s) : ReadsColumn [t] [s]
  | dot {t : Token} {s : String} {ts : List Token} {path : List String}
      (ht : t.segment? = some s) (h : ReadsColumn ts path) :
      ReadsColumn (t :: .sign "." :: ts) (s :: path)

/-- Placeholders with commas between them, and their number. -/
inductive ReadsItems : List Token → Nat → Prop where
  | last (v : String) : ReadsItems [.placeholder v] 1
  | comma (v : String) {ts : List Token} {n : Nat} (h : ReadsItems ts n) :
      ReadsItems (.placeholder v :: .sign "," :: ts) (n + 1)

/-- The operator of a sign. -/
def operatorOfSign? : String → Option Operator
  | "=" => some .equal
  | "<>" => some .notEqual
  | ">" => some .greaterThan
  | "<" => some .lessThan
  | ">=" => some .greaterOrEqual
  | "<=" => some .lessOrEqual
  | _ => none

/-- What follows a column: an operator and a number of placeholders. -/
inductive ReadsTail : List Token → Operator → Nat → Prop where
  | isNull : ReadsTail [.keyword "is", .keyword "null"] .isNull 0
  | isNotNull : ReadsTail [.keyword "is", .keyword "not", .keyword "null"] .isNotNull 0
  | between (v w : String) :
      ReadsTail [.keyword "between", .placeholder v, .keyword "and", .placeholder w] .between 2
  | isIn {ts : List Token} {n : Nat} (h : ReadsItems ts n) :
      ReadsTail (.keyword "in" :: .sign "(" :: (ts ++ [.sign ")"])) .isIn n
  | notIn {ts : List Token} {n : Nat} (h : ReadsItems ts n) :
      ReadsTail (.keyword "not" :: .keyword "in" :: .sign "(" :: (ts ++ [.sign ")"])) .notIn n
  | like (v : String) {escape c : String}
      (he : escape.toList.map Char.toLower = "escape".toList) (hc : c.length = 1) :
      ReadsTail [.keyword "like", .placeholder v, .name escape, .literal c] .innerLike 1
  | sign {s : String} {op : Operator} (hs : operatorOfSign? s = some op) (v : String) :
      ReadsTail [.sign s, .placeholder v] op 1

/-! ## Conditions -/

/-- How tightly what is read binds. -/
inductive Level where
  | factor
  | conjunction
  | disjunction

/-- A row of tokens, and the conditions that it joins at the level. -/
inductive Reads : Level → List Token → List Condition → Prop where
  | test {column tail : List Token} {t : Test} (hc : ReadsColumn column t.path)
      (ht : ReadsTail tail t.operator t.holes) : Reads .factor (column ++ tail) [.test t]
  | always : Reads .factor [.number "1", .sign "=", .number "1"] [.constant true]
  | never : Reads .factor [.number "1", .sign "=", .number "0"] [.constant false]
  | group {ts : List Token} {cs : List Condition} (h : Reads .disjunction ts cs) :
      Reads .factor (.sign "(" :: (ts ++ [.sign ")"])) [.anyOf cs]
  | not {ts : List Token} {c : Condition} (h : Reads .factor ts [c]) :
      Reads .factor (.keyword "not" :: ts) [.not c]
  | factor {ts : List Token} {c : Condition} (h : Reads .factor ts [c]) :
      Reads .conjunction ts [c]
  | and {ts us : List Token} {c : Condition} {cs : List Condition} (h : Reads .factor ts [c])
      (hs : Reads .conjunction us cs) : Reads .conjunction (ts ++ .keyword "and" :: us) (c :: cs)
  | conjunction {ts : List Token} {cs : List Condition} (h : Reads .conjunction ts cs) :
      Reads .disjunction ts [.allOf cs]
  | or {ts us : List Token} {cs ds : List Condition} (h : Reads .conjunction ts cs)
      (hs : Reads .disjunction us ds) :
      Reads .disjunction (ts ++ .keyword "or" :: us) (.allOf cs :: ds)

/-- The condition is a reading of the text. -/
def IsReading (d : Dialect) (sql : String) (c : Condition) : Prop :=
  ∃ ts cs, tokens d sql.toList = some ts ∧ Reads .disjunction ts cs ∧ c = .anyOf cs

/-! ## Only one reading -/

theorem ReadsColumn.unique {ts us r s : List Token} {path path' : List String}
    (h : ReadsColumn ts path) (h' : ReadsColumn us path') (heq : ts ++ r = us ++ s)
    (hr : Token.sign "." ∉ r.head?) (hs : Token.sign "." ∉ s.head?) :
    path = path' ∧ r = s := by
  induction h generalizing us path' with
  | last ht =>
    cases h' with
    | last ht' =>
      obtain ⟨rfl, rfl⟩ := List.cons.inj heq
      rw [ht] at ht'
      exact ⟨by rw [Option.some.inj ht'], rfl⟩
    | dot ht' h' =>
      obtain ⟨-, rfl⟩ := List.cons.inj heq
      exact absurd rfl hr
  | dot ht h ih =>
    cases h' with
    | last ht' =>
      obtain ⟨-, rfl⟩ := List.cons.inj heq
      exact absurd rfl hs
    | dot ht' h' =>
      obtain ⟨rfl, hrest⟩ := List.cons.inj heq
      obtain ⟨rfl, rfl⟩ := ih h' (List.cons.inj hrest).2
      rw [ht] at ht'
      exact ⟨by rw [Option.some.inj ht'], rfl⟩

theorem ReadsItems.unique {ts us r s : List Token} {n m : Nat} (h : ReadsItems ts n)
    (h' : ReadsItems us m) (heq : ts ++ r = us ++ s) (hr : Token.sign "," ∉ r.head?)
    (hs : Token.sign "," ∉ s.head?) : n = m ∧ r = s := by
  induction h generalizing us m with
  | last v =>
    cases h' with
    | last v' => exact ⟨rfl, (List.cons.inj heq).2⟩
    | comma v' h' =>
      obtain ⟨-, rfl⟩ := List.cons.inj heq
      exact absurd rfl hr
  | comma v h ih =>
    cases h' with
    | last v' =>
      obtain ⟨-, rfl⟩ := List.cons.inj heq
      exact absurd rfl hs
    | comma v' h' =>
      obtain ⟨rfl, rfl⟩ := ih h' (List.cons.inj (List.cons.inj heq).2).2
      exact ⟨rfl, rfl⟩

theorem ReadsTail.unique {ts us r s : List Token} {op op' : Operator} {n m : Nat}
    (h : ReadsTail ts op n) (h' : ReadsTail us op' m) (heq : ts ++ r = us ++ s) :
    op = op' ∧ n = m ∧ r = s := by
  have closed : Token.sign "," ∉ (Token.sign ")" :: r).head? ∧
      Token.sign "," ∉ (Token.sign ")" :: s).head? := by simp
  cases h with
  | isNull =>
    cases h' with
    | isNull => exact ⟨rfl, rfl, by simpa using heq⟩
    | _ => simp at heq
  | isNotNull =>
    cases h' with
    | isNotNull => exact ⟨rfl, rfl, by simpa using heq⟩
    | _ => simp at heq
  | between v w =>
    cases h' with
    | between v' w' => exact ⟨rfl, rfl, (by simpa using heq : _ ∧ _ ∧ _).2.2⟩
    | _ => simp at heq
  | isIn hn =>
    cases h' with
    | isIn hm =>
      obtain ⟨rfl, hrest⟩ := hn.unique hm (by simpa using heq) closed.1 closed.2
      exact ⟨rfl, rfl, (List.cons.inj hrest).2⟩
    | _ => simp at heq
  | notIn hn =>
    cases h' with
    | notIn hm =>
      obtain ⟨rfl, hrest⟩ := hn.unique hm (by simpa using heq) closed.1 closed.2
      exact ⟨rfl, rfl, (List.cons.inj hrest).2⟩
    | _ => simp at heq
  | like v he hc =>
    cases h' with
    | like v' he' hc' => exact ⟨rfl, rfl, (by simpa using heq : _ ∧ _ ∧ _ ∧ _).2.2.2⟩
    | _ => simp at heq
  | sign hs v =>
    cases h' with
    | sign hs' v' =>
      obtain ⟨rfl, -, hrest⟩ : _ ∧ _ ∧ r = s := by simpa using heq
      rw [hs] at hs'
      exact ⟨Option.some.inj hs', rfl, hrest⟩
    | _ => simp at heq

/-- A comparison begins with a name. -/
theorem ReadsColumn.append_ne_cons {ts : List Token} {path : List String}
    (h : ReadsColumn ts path) {t : Token} (ht : t.segment? = none) (tail r s : List Token) :
    ts ++ tail ++ r ≠ t :: s := by
  intro heq
  cases h with
  | last ht' =>
    obtain ⟨rfl, -⟩ := List.cons.inj heq
    exact absurd (ht.symm.trans ht') (by simp)
  | dot ht' h =>
    obtain ⟨rfl, -⟩ := List.cons.inj heq
    exact absurd (ht.symm.trans ht') (by simp)

/-- What follows a column does not go on with it. -/
theorem ReadsTail.dot_not_mem_head? {ts : List Token} {op : Operator} {n : Nat}
    (h : ReadsTail ts op n) (r : List Token) : Token.sign "." ∉ (ts ++ r).head? := by
  cases h with
  | sign hs v =>
    intro hdot
    obtain rfl : _ = "." := by simpa using hdot
    exact absurd hs (by simp [operatorOfSign?])
  | _ => simp

/-- The rest does not go on with what is read at the level. -/
def Level.Ends : Level → List Token → Prop
  | factor, _ => True
  | conjunction, rest => Token.keyword "and" ∉ rest.head?
  | disjunction, rest => Token.keyword "and" ∉ rest.head? ∧ Token.keyword "or" ∉ rest.head?

theorem Reads.eq_test {column tail us r s : List Token} {t : Test} {ds : List Condition}
    (hc : ReadsColumn column t.path) (ht : ReadsTail tail t.operator t.holes)
    (h' : Reads .factor us ds) (heq : column ++ tail ++ r = us ++ s) :
    [.test t] = ds ∧ r = s := by
  cases h' with
  | test hc' ht' =>
    rw [List.append_assoc, List.append_assoc] at heq
    obtain ⟨hpath, heq⟩ :=
      hc.unique hc' heq (ht.dot_not_mem_head? r) (ht'.dot_not_mem_head? s)
    obtain ⟨hop, hholes, hrest⟩ := ht.unique ht' heq
    exact ⟨by rw [Test.ext hpath hop hholes], hrest⟩
  | _ => exact absurd heq (hc.append_ne_cons rfl _ _ _)

/-- **Only one reading**: what is read from the beginning of a row of tokens, up to where it does
not go on, is read in one way. -/
theorem Reads.unique {level : Level} {ts us r s : List Token} {cs ds : List Condition}
    (h : Reads level ts cs) (h' : Reads level us ds) (heq : ts ++ r = us ++ s)
    (hr : level.Ends r) (hs : level.Ends s) : cs = ds ∧ r = s := by
  have closed : ∀ rest : List Token, Level.disjunction.Ends (Token.sign ")" :: rest) := fun _ => by
    simp [Level.Ends]
  -- Where the two derivations end differently, one of the rests goes on with `AND` or `OR`.
  induction h generalizing us r s ds with
  | test hc ht => exact Reads.eq_test hc ht h' heq
  | always =>
    cases h' with
    | always => exact ⟨rfl, by simpa using heq⟩
    | test hc' ht' => exact absurd heq.symm (hc'.append_ne_cons rfl _ _ _)
    | _ => simp at heq
  | never =>
    cases h' with
    | never => exact ⟨rfl, by simpa using heq⟩
    | test hc' ht' => exact absurd heq.symm (hc'.append_ne_cons rfl _ _ _)
    | _ => simp at heq
  | group h ih =>
    cases h' with
    | group h' =>
      obtain ⟨rfl, hrest⟩ := ih h' (by simpa using heq) (closed r) (closed s)
      exact ⟨rfl, (List.cons.inj hrest).2⟩
    | test hc' ht' => exact absurd heq.symm (hc'.append_ne_cons rfl _ _ _)
    | _ => simp at heq
  | not h ih =>
    cases h' with
    | not h' =>
      obtain ⟨hc, hrest⟩ := ih h' (List.cons.inj heq).2 trivial trivial
      exact ⟨by rw [(List.cons.inj hc).1], hrest⟩
    | test hc' ht' => exact absurd heq.symm (hc'.append_ne_cons rfl _ _ _)
    | _ => simp at heq
  | factor h ih =>
    cases h' with
    | factor h' => exact ih h' heq trivial trivial
    | and h' hmore' =>
      rw [List.append_assoc] at heq
      obtain ⟨-, rfl⟩ := ih h' heq trivial trivial
      exact absurd rfl hr
  | and h hmore ih ihmore =>
    rw [List.append_assoc] at heq
    cases h' with
    | factor h' =>
      obtain ⟨-, rfl⟩ := ih h' heq trivial trivial
      exact absurd rfl hs
    | and h' hmore' =>
      rw [List.append_assoc] at heq
      obtain ⟨hc, hrest⟩ := ih h' heq trivial trivial
      obtain ⟨rfl, hrest⟩ := ihmore hmore' (List.cons.inj hrest).2 hr hs
      exact ⟨by rw [(List.cons.inj hc).1], hrest⟩
  | conjunction h ih =>
    cases h' with
    | conjunction h' =>
      obtain ⟨rfl, hrest⟩ := ih h' heq hr.1 hs.1
      exact ⟨rfl, hrest⟩
    | or h' hmore' =>
      rw [List.append_assoc] at heq
      obtain ⟨-, rfl⟩ := ih h' heq hr.1 (by simp [Level.Ends])
      exact absurd rfl hr.2
  | or h hmore ih ihmore =>
    rw [List.append_assoc] at heq
    have joins : ∀ rest : List Token, Level.conjunction.Ends (Token.keyword "or" :: rest) :=
      fun _ => by simp [Level.Ends]
    cases h' with
    | conjunction h' =>
      obtain ⟨-, rfl⟩ := ih h' heq (joins _) hs.1
      exact absurd rfl hs.2
    | or h' hmore' =>
      rw [List.append_assoc] at heq
      obtain ⟨rfl, hrest⟩ := ih h' heq (joins _) (joins _)
      obtain ⟨rfl, hrest⟩ := ihmore hmore' (List.cons.inj hrest).2 hr hs
      exact ⟨rfl, hrest⟩

/-- **A text has at most one reading**. -/
theorem IsReading.unique {d : Dialect} {sql : String} {c c' : Condition} (h : IsReading d sql c)
    (h' : IsReading d sql c') : c = c' := by
  obtain ⟨ts, cs, hts, hcs, rfl⟩ := h
  obtain ⟨us, ds, hus, hds, rfl⟩ := h'
  obtain rfl := Option.some.inj (hts.symm.trans hus)
  have hend : Level.disjunction.Ends [] := by simp [Level.Ends]
  obtain ⟨rfl, -⟩ := hcs.unique hds rfl hend hend
  rfl

end RowFilter.Sql
