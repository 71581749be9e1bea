import Mathlib.Data.List.Infix
import RowFilter.Proofs.Sql.Fragment

/-!
# What a pattern matches

In a pattern a percent sign stands for any characters, an underscore for one, and a backslash takes
the meaning away from the character after it; in one dialect a bracket opens a class of characters.
A pattern that ends inside an escape or a class matches nothing. What a class admits is left open
here, since an escaped text opens none.

Headlines:
* `readParts_escapeChars`: an escaped text stands for its own characters, whatever follows it;
* `matchesParts_exactly_iff`: where characters stand for themselves, the text begins with them;
* **`matches_wrap_escape_iff`**: what is searched for is found exactly where it is.
-/

namespace RowFilter
namespace Sql

/-! ## Patterns -/

/-- A part of a pattern. -/
inductive PatternPart where
  /-- Any characters, or none. -/
  | anything
  /-- One character. -/
  | anyOne
  /-- The character itself. -/
  | exactly (c : Char)
  /-- One character of a class; the content is what stands between the brackets. -/
  | oneOf (content : List Char)
  deriving DecidableEq

namespace Dialect

mutual

/-- The parts of a pattern, unless it ends inside an escape or a class. -/
def readParts (d : Dialect) : List Char → Option (List PatternPart)
  | [] => some []
  | '\\' :: [] => none
  | '\\' :: c :: cs => (d.readParts cs).map (.exactly c :: ·)
  | c :: cs =>
    if c = '%' then (d.readParts cs).map (.anything :: ·)
    else if c = '_' then (d.readParts cs).map (.anyOne :: ·)
    else if c = '[' ∧ d = mssql then d.readClass [] cs
    else (d.readParts cs).map (.exactly c :: ·)

/-- The parts of a pattern from inside a class on, of which some has been read. -/
def readClass (d : Dialect) (content : List Char) : List Char → Option (List PatternPart)
  | [] => none
  | '\\' :: [] => none
  | '\\' :: c :: cs => d.readClass (content ++ ['\\', c]) cs
  | c :: cs =>
    if c = ']' then (d.readParts cs).map (.oneOf content :: ·)
    else d.readClass (content ++ [c]) cs

end

end Dialect

/-! ## Matching -/

variable (admits : List Char → Char → Bool)

/-- A text is made of parts one after another, `admits` being what classes admit. -/
def matchesParts : List PatternPart → List Char → Bool
  | [], t => t.isEmpty
  | .anything :: parts, t => t.tails.any (matchesParts parts)
  | .anyOne :: parts, t => t.head?.any fun _ => matchesParts parts t.tail
  | .exactly a :: parts, t => t.head?.any fun c => a == c && matchesParts parts t.tail
  | .oneOf content :: parts, t =>
    t.head?.any fun c => admits content c && matchesParts parts t.tail

/-- A text matches a pattern. -/
def Dialect.matches (d : Dialect) (pattern text : String) : Bool :=
  (d.readParts pattern.toList).any fun parts => matchesParts admits parts text.toList

variable {admits}

theorem matchesParts_anything_iff {parts : List PatternPart} {t : List Char} :
    matchesParts admits (.anything :: parts) t = true ↔
      ∃ skipped rest, t = skipped ++ rest ∧ matchesParts admits parts rest = true := by
  rw [matchesParts, List.any_eq_true]
  simp only [List.mem_tails]
  constructor
  · rintro ⟨rest, ⟨skipped, rfl⟩, h⟩
    exact ⟨skipped, rest, rfl, h⟩
  · rintro ⟨skipped, rest, rfl, h⟩
    exact ⟨rest, List.suffix_append _ _, h⟩

/-- **Characters that stand for themselves** are what the text begins with. -/
theorem matchesParts_exactly_iff {s : List Char} {parts : List PatternPart} {t : List Char} :
    matchesParts admits (s.map .exactly ++ parts) t = true ↔
      ∃ rest, t = s ++ rest ∧ matchesParts admits parts rest = true := by
  induction s generalizing t with
  | nil => simp
  | cons a s ih =>
    rw [List.map_cons, List.cons_append, matchesParts]
    cases t with
    | nil => simp
    | cons c t =>
      simp only [List.head?_cons, Option.any_some, List.tail_cons, Bool.and_eq_true, beq_iff_eq,
        ih, List.cons_append, List.cons.injEq]
      constructor
      · rintro ⟨rfl, rest, rfl, h⟩
        exact ⟨rest, ⟨rfl, rfl⟩, h⟩
      · rintro ⟨rest, ⟨rfl, rfl⟩, h⟩
        exact ⟨rfl, rest, rfl, h⟩

theorem matchesParts_nil_iff {t : List Char} : matchesParts admits [] t = true ↔ t = [] := by
  rw [matchesParts, List.isEmpty_iff]

theorem matchesParts_anything (t : List Char) : matchesParts admits [.anything] t = true :=
  matchesParts_anything_iff.mpr ⟨t, [], (List.append_nil t).symm, rfl⟩

/-! ## Escaped texts -/

namespace Dialect

theorem isSpecial_eq_false_iff {d : Dialect} {c : Char} :
    d.isSpecial c = false ↔ c ≠ '\\' ∧ c ≠ '%' ∧ c ≠ '_' ∧ ¬(c = '[' ∧ d = mssql) := by
  simp [isSpecial, and_assoc]

theorem readParts_of_not_isSpecial {d : Dialect} {c : Char} (h : d.isSpecial c = false)
    (cs : List Char) : d.readParts (c :: cs) = (d.readParts cs).map (.exactly c :: ·) := by
  obtain ⟨hescape, hany, hone, hclass⟩ := isSpecial_eq_false_iff.mp h
  rw [readParts, if_neg hany, if_neg hone, if_neg hclass]
  · exact fun hc _ => hescape hc
  · exact fun _ _ hc _ => hescape hc

/-- **An escaped text stands for its own characters**, whatever follows it. -/
theorem readParts_escapeChars (d : Dialect) (s rest : List Char) :
    d.readParts (d.escapeChars s ++ rest) =
      (d.readParts rest).map (s.map .exactly ++ ·) := by
  induction s with
  | nil => simp [escapeChars]
  | cons c s ih =>
    have hread : d.readParts (d.escapeChars (c :: s) ++ rest) =
        (d.readParts (d.escapeChars s ++ rest)).map (.exactly c :: ·) := by
      rw [escapeChars, List.flatMap_cons, List.append_assoc, ← escapeChars]
      cases hc : d.isSpecial c with
      | true => rw [if_pos rfl, List.cons_append, List.cons_append, List.nil_append, readParts]
      | false =>
        rw [if_neg Bool.false_ne_true, List.cons_append, List.nil_append,
          readParts_of_not_isSpecial hc]
    rw [hread, ih, Option.map_map]
    rfl

end Dialect
end Sql

open Sql

/-! ## Searching -/

namespace LikePattern

/-- The operator that asks for the pattern. -/
def operator : LikePattern → Operator
  | startsWith => .leftLike
  | contains => .innerLike
  | endsWith => .rightLike

theorem like_operator (p : LikePattern) : p.operator.like = some p := by
  cases p <;> rfl

/-- What is searched for is found in a text where the pattern asks for it. -/
def Finds (searched text : List Char) : LikePattern → Prop
  | startsWith => searched <+: text
  | contains => searched <:+: text
  | endsWith => searched <:+ text

/-- Parts with the wildcards of the pattern around them. -/
def wrapParts (parts : List PatternPart) : LikePattern → List PatternPart
  | startsWith => parts ++ [.anything]
  | contains => .anything :: (parts ++ [.anything])
  | endsWith => .anything :: parts

theorem readParts_wrap_escape (p : LikePattern) (d : Dialect) (s : String) :
    d.readParts (p.wrap (d.escape s)).toList =
      some (p.wrapParts (s.toList.map .exactly)) := by
  have hescape : (d.escape s).toList = d.escapeChars s.toList := String.toList_ofList ..
  have hany : ∀ cs, d.readParts ('%' :: cs) = (d.readParts cs).map (.anything :: ·) :=
    fun cs => by simp [Dialect.readParts]
  have hend : d.readParts ['%'] = some [.anything] := by simp [Dialect.readParts]
  have hplain : d.readParts (d.escapeChars s.toList) = some (s.toList.map .exactly) := by
    simpa [Dialect.readParts] using d.readParts_escapeChars s.toList []
  cases p with
  | startsWith =>
    rw [wrap, String.toList_append, hescape, wrapParts, d.readParts_escapeChars]
    show (d.readParts ['%']).map _ = _
    rw [hend, Option.map_some]
  | contains =>
    rw [wrap, String.toList_append, String.toList_append, hescape, wrapParts]
    show d.readParts ('%' :: (d.escapeChars s.toList ++ ['%'])) = _
    rw [hany, d.readParts_escapeChars, hend, Option.map_some, Option.map_some]
  | endsWith =>
    rw [wrap, String.toList_append, hescape, wrapParts]
    show d.readParts ('%' :: d.escapeChars s.toList) = _
    rw [hany, hplain, Option.map_some]

theorem matchesParts_wrapParts_iff {admits : List Char → Char → Bool} (p : LikePattern)
    (s t : List Char) :
    matchesParts admits (p.wrapParts (s.map .exactly)) t = true ↔ p.Finds s t := by
  have hwhole : ∀ {u : List Char},
      matchesParts admits (s.map .exactly) u = true ↔ u = s := by
    intro u
    have h := @matchesParts_exactly_iff admits s [] u
    simpa [matchesParts_nil_iff] using h
  cases p with
  | startsWith =>
    simp only [wrapParts, Finds, matchesParts_exactly_iff, matchesParts_anything, and_true]
    exact exists_congr fun rest => eq_comm
  | contains =>
    simp only [wrapParts, Finds, matchesParts_anything_iff, matchesParts_exactly_iff,
      matchesParts_anything, and_true]
    constructor
    · rintro ⟨before, _, rfl, after, rfl⟩
      exact ⟨before, after, List.append_assoc ..⟩
    · rintro ⟨before, after, rfl⟩
      exact ⟨before, s ++ after, List.append_assoc .., after, rfl⟩
  | endsWith =>
    simp only [wrapParts, Finds, matchesParts_anything_iff, hwhole]
    constructor
    · rintro ⟨before, rest, rfl, hrest⟩
      exact hrest ▸ List.suffix_append before rest
    · rintro ⟨before, rfl⟩
      exact ⟨before, s, rfl, rfl⟩

end LikePattern

/-- What a comparison with a text binds for a pattern: the text, escaped and with its wildcards. -/
theorem params_of_like (r : Renderer) (p : LikePattern) (column s : String) :
    (r.render (.comparison ⟨column, p.operator, .single (.text s)⟩)).map Rendered.params =
      (quoteIdentifier r.dialect column).map fun _ => [.text (p.wrap (r.dialect.escape s))] := by
  have hsingle : operandFragment r.dialect ⟨column, p.operator, .single (.text s)⟩ =
      .ok (.ofText " LIKE " ++ .ofValue (.text (p.wrap (r.dialect.escape s)))
        ++ .ofText r.dialect.escapeClause) := by
    rw [operandFragment_single rfl, singleFragment, p.like_operator]
    rfl
  rw [render_eq_map, predicateFragment, comparisonFragment, hsingle]
  cases quoteIdentifier r.dialect column <;> rfl

/-- **What is searched for is found exactly where it is**: the pattern that a comparison binds is
the escaped text with its wildcards. All its other characters stand for themselves, and a text
matches it exactly if it begins with, contains or ends with what is searched for. -/
theorem matches_wrap_escape_iff (admits : List Char → Char → Bool) (r : Renderer)
    (p : LikePattern) (column s t : String) :
    (r.render (.comparison ⟨column, p.operator, .single (.text s)⟩)).map Rendered.params =
      (quoteIdentifier r.dialect column).map
        (fun _ => [.text (p.wrap (r.dialect.escape s))]) ∧
    r.dialect.readParts (p.wrap (r.dialect.escape s)).toList =
      some (p.wrapParts (s.toList.map .exactly)) ∧
    (r.dialect.matches admits (p.wrap (r.dialect.escape s)) t = true ↔
      p.Finds s.toList t.toList) := by
  refine ⟨params_of_like r p column s, p.readParts_wrap_escape r.dialect s, ?_⟩
  rw [Dialect.matches, p.readParts_wrap_escape, Option.any_some, p.matchesParts_wrapParts_iff]

/-- A backslash at the end of what is searched for does not reach the wildcard after it. -/
example : Dialect.mysql.matches (fun _ _ => false) (LikePattern.startsWith.wrap
    (Dialect.mysql.escape "50%\\")) "50%\\ off" = true := by
  decide

end RowFilter
