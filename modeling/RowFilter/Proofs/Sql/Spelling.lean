import RowFilter.Proofs.Sql.Grammar

/-!
# Fragments and their tokens

A fragment stands for tokens, whichever number its first hole gets; the holes are the placeholders
among them, and are numbered one after another. Texts that end their last token, such as `AND` with
the blanks around it, may have anything after them; other fragments go on only with what does not
begin with a letter, a digit or an underscore.

Headlines:
* `Spells.append` and `Spells.after`: fragments in a row stand for their tokens in a row;
* `exists_spells_items`: a list of values is placeholders with commas between them;
* `Tail.exists_spells`: what follows a column reads as its operator.
-/

namespace RowFilter

/-- The operator as far as a text tells: the kinds of pattern are one. -/
def Operator.written : Operator → Operator
  | leftLike | rightLike => innerLike
  | op => op

/-- What a comparison asks, as far as its text tells. -/
def Comparison.test (c : Comparison) : Sql.Test :=
  ⟨(Sql.splitDots c.column.toList).map String.ofList, c.operator.written, c.operand.values.length⟩

namespace Sql

open Fragment

variable {d : Dialect} {n : Nat}

/-! ## Placeholders -/

/-- The placeholder, if the token is one. -/
def Token.mark? : Token → Option String
  | .placeholder word => some word
  | _ => none

/-- The placeholders among tokens, from left to right. -/
def marks (ts : List Token) : List String := ts.filterMap Token.mark?

@[simp] theorem marks_append (ts us : List Token) : marks (ts ++ us) = marks ts ++ marks us :=
  List.filterMap_append ..

/-- The placeholders of a number of holes, numbered from an index on. -/
def Dialect.placeholders (d : Dialect) (n count : Nat) : List String :=
  (List.range' n count).map fun k => d.placeholder k

theorem placeholders_add (n a b : Nat) :
    d.placeholders n (a + b) = d.placeholders n a ++ d.placeholders (n + a) b := by
  rw [Dialect.placeholders, ← List.range'_append_1, List.map_append]
  rfl

/-! ## Fragments in a row -/

/-- The fragment stands for these tokens if its holes are numbered from an index on. -/
structure Spells (d : Dialect) (n : Nat) (f : Fragment) (ts : List Token) : Prop where
  lexes : Lexes d (f.text d n) ts
  numbered : marks ts = d.placeholders n (holes f.pieces)

/-- The text stands for these tokens, none of which is a placeholder, whatever comes next. -/
structure Opens (d : Dialect) (text : String) (ts : List Token) : Prop where
  closes : Closes d text.toList ts
  plain : marks ts = []

/-- The text goes on with no word before it. -/
def Apart (text : List Char) : Prop := text.head?.any (!isNameChar ·) = true

instance {text : List Char} : Decidable (Apart text) := inferInstanceAs (Decidable (_ = _))

theorem Apart.isNameChar {text : List Char} (h : Apart text) :
    ∀ c ∈ text.head?, isNameChar c = false := by
  intro c hc
  rw [Apart, Option.mem_def.mp hc] at h
  simpa using h

theorem Apart.append {a : List Char} (h : Apart a) (b : List Char) : Apart (a ++ b) := by
  cases a with
  | nil => exact absurd h (by decide)
  | cons c a => exact h

theorem Spells.ofText {s : String} {ts : List Token} (h : Lexes d s.toList ts)
    (hm : marks ts = []) : Spells d n (ofText s) ts :=
  ⟨by rwa [text_ofText], hm⟩

theorem spells_ofValue (v : Value) : Spells d n (ofValue v) [.placeholder (d.placeholder n)] :=
  ⟨by rw [text_ofValue]; exact lexes_placeholder n, rfl⟩

/-- **Fragments in a row**: the second must not go on with a word of the first. -/
theorem Spells.append {f g : Fragment} {ts us : List Token} (hf : Spells d n f ts)
    (hg : Spells d (n + holes f.pieces) g us) (ha : Apart (g.text d (n + holes f.pieces))) :
    Spells d n (f ++ g) (ts ++ us) := by
  constructor
  · rw [text_append]
    exact hf.lexes.append hg.lexes ha.isNameChar
  · rw [marks_append, hf.numbered, hg.numbered, pieces_append, holes_append, placeholders_add]

/-- A fragment after a text that ends its last token. -/
theorem Spells.after {s : String} {f : Fragment} {ts us : List Token} (hf : Spells d n f us)
    (hs : Opens d s ts) : Spells d n (.ofText s ++ f) (ts ++ us) := by
  constructor
  · rw [text_append, text_ofText]
    exact hs.closes.append hf.lexes
  · rw [marks_append, hs.plain, hf.numbered]
    simp [holes]

theorem append_assoc (f g h : Fragment) : f ++ g ++ h = f ++ (g ++ h) := by
  cases f
  cases g
  cases h
  exact congrArg₂ Fragment.mk (List.append_assoc ..) (List.append_assoc ..)

theorem apart_of_pieces {f : Fragment} {s : String} {rest : List Piece}
    (hp : f.pieces = .text s :: rest) (h : Apart s.toList) : Apart (f.text d n) := by
  rw [Fragment.text, hp]
  exact h.append _

/-- Two fragments with a text between them. -/
theorem Spells.between {s : String} {f g : Fragment} {ts us vs : List Token}
    (hf : Spells d n f ts) (hs : Opens d s us) (ha : Apart s.toList)
    (hg : Spells d (n + holes f.pieces) g vs) :
    Spells d n (f ++ .ofText s ++ g) (ts ++ (us ++ vs)) := by
  rw [append_assoc]
  exact hf.append (hg.after hs) (apart_of_pieces rfl ha)

/-- A fragment before a text. -/
theorem Spells.before {s : String} {f : Fragment} {ts us : List Token} (hf : Spells d n f ts)
    (hs : Opens d s us) (ha : Apart s.toList) : Spells d n (f ++ .ofText s) (ts ++ us) := by
  refine hf.append (.ofText hs.closes.lexes hs.plain) ?_
  rwa [text_ofText]

theorem opens_close : Opens d ")" [.sign ")"] := ⟨by cases d <;> decide, rfl⟩

theorem opens_and : Opens d " AND " [.keyword "and"] := ⟨by cases d <;> decide, rfl⟩

theorem Spells.parenthesized {f : Fragment} {ts : List Token} (hf : Spells d n f ts) :
    Spells d n f.parenthesized (.sign "(" :: (ts ++ [.sign ")"])) := by
  have hopen : Opens d "(" [.sign "("] := ⟨by cases d <;> decide, rfl⟩
  exact (hf.after hopen).before opens_close (by decide)

/-! ## Comparisons -/

/-- **A list of values** is placeholders with commas between them. -/
theorem exists_spells_items : ∀ {vs : List Value}, vs ≠ [] → ∀ n,
    ∃ ts, Spells d n (joined ", " (vs.map .ofValue)) ts ∧ ReadsItems ts vs.length
  | [], hne, _ => absurd rfl hne
  | [v], _, n => ⟨_, spells_ofValue v, .last _⟩
  | v :: w :: vs, _, n => by
    have hcomma : Opens d ", " [.sign ","] := ⟨by cases d <;> decide, rfl⟩
    obtain ⟨ts, hts, hr⟩ := exists_spells_items (List.cons_ne_nil w vs) (n + 1)
    exact ⟨_, (spells_ofValue v).between hcomma (by decide) hts, .comma _ hr⟩

theorem opens_sign {op : Operator} {sign : String} (h : sign? op = some sign) :
    Opens d (" " ++ sign ++ " ") [.sign sign] ∧ Apart (" " ++ sign ++ " ").toList ∧
      operatorOfSign? sign = some op.written := by
  cases op <;> simp only [sign?, Option.some.injEq, reduceCtorEq] at h <;> subst h <;>
    exact ⟨⟨by cases d <;> decide, rfl⟩, by decide, rfl⟩

theorem written_of_like {op : Operator} {pattern : LikePattern} (h : op.like = some pattern) :
    op.written = .innerLike := by
  cases op <;> cases pattern <;> first | rfl | exact absurd h (by decide)

/-- **What follows a column** reads as the operator with its placeholders. -/
theorem Tail.exists_spells {column : String} {op : Operator} {operand : Operand} {f : Fragment}
    (h : Tail d column op operand f) (n : Nat) :
    ∃ ts, Spells d n f ts ∧ ReadsTail ts op.written operand.values.length ∧
      Apart (f.text d n) := by
  cases h with
  | isNull =>
    have hnull : Lexes d " IS NULL".toList [.keyword "is", .keyword "null"] :=
      ⟨[.keyword "is"], .word "NULL".toList, _, by cases d <;> decide, trivial, rfl, by decide⟩
    exact ⟨_, .ofText hnull rfl, .isNull, apart_of_pieces rfl (by decide)⟩
  | isNotNull =>
    have hnull : Lexes d " IS NOT NULL".toList [.keyword "is", .keyword "not", .keyword "null"] :=
      ⟨[.keyword "is", .keyword "not"], .word "NULL".toList, _, by cases d <;> decide, trivial, rfl,
        by decide⟩
    exact ⟨_, .ofText hnull rfl, .isNotNull, apart_of_pieces rfl (by decide)⟩
  | between low high =>
    have hbetween : Opens d " BETWEEN " [.keyword "between"] := ⟨by cases d <;> decide, rfl⟩
    have hlow := (spells_ofValue (n := n) low).after hbetween
    exact ⟨_, hlow.between opens_and (by decide) (spells_ofValue high), .between _ _,
      apart_of_pieces rfl (by decide)⟩
  | isIn v vs =>
    have hin : Opens d " IN (" [.keyword "in", .sign "("] := ⟨by cases d <;> decide, rfl⟩
    obtain ⟨ts, hts, hr⟩ := exists_spells_items (d := d) (List.cons_ne_nil v vs) n
    exact ⟨_, (hts.after hin).before opens_close (by decide), .isIn hr,
      apart_of_pieces rfl (by decide)⟩
  | notIn v vs =>
    have hin : Opens d " NOT IN (" [.keyword "not", .keyword "in", .sign "("] :=
      ⟨by cases d <;> decide, rfl⟩
    obtain ⟨ts, hts, hr⟩ := exists_spells_items (d := d) (List.cons_ne_nil v vs) n
    exact ⟨_, (hts.after hin).before opens_close (by decide), .notIn hr,
      apart_of_pieces rfl (by decide)⟩
  | like hp hs =>
    have hlike : Opens d " LIKE " [.keyword "like"] := ⟨by cases d <;> decide, rfl⟩
    have hescape : Opens d d.escapeClause [.name "ESCAPE", .literal "\\"] :=
      ⟨by cases d <;> decide, rfl⟩
    rw [written_of_like hp]
    exact ⟨_, ((spells_ofValue _).after hlike).before hescape (by cases d <;> decide),
      .like _ (by decide) (by decide), apart_of_pieces rfl (by decide)⟩
  | sign hs =>
    obtain ⟨hopen, ha, hop⟩ := opens_sign (d := d) hs
    exact ⟨_, (spells_ofValue _).after hopen, .sign hop _, apart_of_pieces rfl ha⟩

theorem segment?_segmentToken (segment : List Char) :
    (segmentToken segment).segment? = some (.ofList segment) := by
  unfold segmentToken
  split <;> rfl

theorem readsColumn_path : ∀ {segments : List (List Char)}, segments ≠ [] →
    ReadsColumn (pathTokens segments) (segments.map String.ofList)
  | [], hne => absurd rfl hne
  | [s], _ => .last (segment?_segmentToken s)
  | s :: t :: rest, _ =>
    .dot (segment?_segmentToken s) (readsColumn_path (List.cons_ne_nil t rest))

theorem marks_pathTokens : ∀ segments : List (List Char), marks (pathTokens segments) = []
  | [] => rfl
  | [s] => by
    rw [pathTokens, segmentToken]
    split <;> rfl
  | s :: t :: rest => by
    rw [pathTokens, segmentToken]
    split <;> exact marks_pathTokens (t :: rest)

/-- **A comparison** reads as its test. -/
theorem exists_spells_comparison {c : Comparison} {tail : Fragment}
    (hsafe : isSafe c.column = true) (ht : Tail d c.column c.operator c.operand tail) (n : Nat) :
    ∃ ts, Spells d n (.ofText (columnText d c.column) ++ tail) ts ∧
      Reads .factor ts [.test c.test] := by
  have hcolumn : Spells d n (.ofText (columnText d c.column))
      (pathTokens (splitDots c.column.toList)) :=
    .ofText (lexes_column hsafe) (marks_pathTokens _)
  obtain ⟨ts, hts, hr, ha⟩ := ht.exists_spells (n + 0)
  exact ⟨_, hcolumn.append hts ha, .test (readsColumn_path (splitDots_ne_nil _)) hr⟩

end Sql
end RowFilter
