import RowFilter.Proofs.Sql.Fragment

/-!
# When the clause is left out

The clause after `WHERE` is left out by the look of the text: where it is `1=1`. No other predicate
than the empty conjunction has this text, since nothing but the constants begins with a digit: a
column that would is quoted.

Headlines:
* `exists_columnText_eq_cons`: a column never begins with a digit;
* `exists_text_eq_cons`: nor does any predicate but the constants;
* **`whereClause_eq_empty_iff`**: the clause is left out for the empty conjunction only.
-/

namespace RowFilter.Sql

open Fragment

variable {d : Dialect}

/-! ## Columns -/

theorem isDigit_quotes (d : Dialect) : d.quotes.1.isDigit = false := by
  cases d <;> decide

/-- A segment begins with no digit: one that would has a quote before it. -/
theorem exists_segmentChars_eq_cons {segment : List Char} (h : isSafeSegment segment = true) :
    ∃ c cs, segmentChars d segment = c :: cs ∧ c.isDigit = false := by
  unfold segmentChars
  cases hquoted : needsQuoting segment with
  | true => exact ⟨_, _, rfl, isDigit_quotes d⟩
  | false =>
    have hdigit : segment.head?.any Char.isDigit = false := (Bool.or_eq_false_iff.mp hquoted).2
    cases segment with
    | nil => exact absurd h (by decide)
    | cons c cs => exact ⟨c, cs, rfl, hdigit⟩

theorem exists_joinDots_eq_cons (c : Char) (cs : List Char) (rest : List (List Char)) :
    ∃ cs', joinDots ((c :: cs) :: rest) = c :: cs' := by
  cases rest with
  | nil => exact ⟨cs, by simp [joinDots, List.intercalate]⟩
  | cons s ss => exact ⟨cs ++ '.' :: joinDots (s :: ss), by simp [joinDots, List.intercalate]⟩

/-- **A column never begins with a digit**, quoted or not. -/
theorem exists_columnText_eq_cons {column : String} (h : isSafe column = true) :
    ∃ c cs, (columnText d column).toList = c :: cs ∧ c.isDigit = false := by
  obtain ⟨s, ss, hs⟩ := List.exists_cons_of_ne_nil (splitDots_ne_nil column.toList)
  rw [isSafe, hs, List.all_cons, Bool.and_eq_true] at h
  obtain ⟨c, cs, hc, hdigit⟩ := exists_segmentChars_eq_cons (d := d) h.1
  obtain ⟨cs', hcs'⟩ := exists_joinDots_eq_cons c cs (ss.map (segmentChars d))
  refine ⟨c, cs', ?_, hdigit⟩
  rw [columnText, String.toList_ofList, hs, List.map_cons, hc, hcs']

/-! ## Predicates -/

theorem text_parenthesized (n : Nat) (f : Fragment) :
    f.parenthesized.text d n = '(' :: (f.text d n ++ [')']) := by
  simp [parenthesized, text_append]

/-- **Nothing but the constants begins with a digit.** -/
theorem exists_text_eq_cons {p : Predicate} {f : Fragment} (h : predicateFragment d p = .ok f)
    (htrue : p ≠ .always) (hfalse : p ≠ .never) (n : Nat) :
    ∃ c cs, f.text d n = c :: cs ∧ c.isDigit = false := by
  cases p with
  | comparison c =>
    rw [predicateFragment, comparisonFragment_eq_ok_iff] at h
    obtain ⟨hsafe, tail, -, rfl⟩ := h
    obtain ⟨c, cs, hcs, hdigit⟩ := exists_columnText_eq_cons (d := d) hsafe
    exact ⟨c, _, by rw [text_append, text_ofText, hcs, List.cons_append], hdigit⟩
  | and ps =>
    have hne : ps ≠ [] := fun hnil => htrue (by rw [hnil, Predicate.always])
    rw [predicateFragment_and hne, Outcome.map_ok_iff] at h
    obtain ⟨fs, -, rfl⟩ := h
    exact ⟨'(', _, text_parenthesized n _, rfl⟩
  | or ps =>
    have hne : ps ≠ [] := fun hnil => hfalse (by rw [hnil, Predicate.never])
    rw [predicateFragment_or hne, Outcome.map_ok_iff] at h
    obtain ⟨fs, -, rfl⟩ := h
    exact ⟨'(', _, text_parenthesized n _, rfl⟩
  | not p =>
    rw [predicateFragment_not, Outcome.map_ok_iff] at h
    obtain ⟨g, -, rfl⟩ := h
    exact ⟨'N', _, by rw [text_append, text_ofText]; rfl, rfl⟩

theorem sql_of_ofText {r : Renderer} {p : Predicate} {s : String} {out : Rendered}
    (hp : predicateFragment r.dialect p = .ok (.ofText s)) (h : r.render p = .ok out) :
    out.sql = s := by
  obtain ⟨f, hf, hsql, -⟩ := render_eq_ok_iff.mp h
  obtain rfl := Except.ok.inj (hp.symm.trans hf)
  rw [← String.toList_inj, hsql, text_ofText]

/-- The text `1=1` is that of the empty conjunction only. -/
theorem sql_eq_iff {r : Renderer} {p : Predicate} {out : Rendered} (h : r.render p = .ok out) :
    out.sql = "1=1" ↔ p = .always := by
  constructor
  · intro hsql
    by_contra htrue
    by_cases hfalse : p = .never
    · rw [hfalse] at h
      have hnever : out.sql = "1=0" := sql_of_ofText rfl h
      exact absurd (hnever.symm.trans hsql) (by decide)
    · obtain ⟨f, hf, htext, -⟩ := render_eq_ok_iff.mp h
      obtain ⟨c, cs, hcs, hdigit⟩ := exists_text_eq_cons hf htrue hfalse r.firstIndex
      rw [hsql, hcs] at htext
      have hc : '1' = c := (List.cons.inj htext).1
      rw [← hc] at hdigit
      exact absurd hdigit (by decide)
  · rintro rfl
    exact sql_of_ofText rfl h

/-- **The clause is left out** for the empty conjunction only. -/
theorem whereClause_eq_empty_iff {r : Renderer} {p : Predicate} {out : Rendered}
    (h : r.render p = .ok out) : out.whereClause = "" ↔ p = .always := by
  rw [← sql_eq_iff h]
  unfold Rendered.whereClause
  split
  · rename_i hsql
    simp [hsql]
  · rename_i hsql
    simp [hsql]

end RowFilter.Sql
