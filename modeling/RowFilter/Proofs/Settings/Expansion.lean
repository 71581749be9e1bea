import RowFilter.Environment

/-!
# Expansion is one substitution

References are looked for from left to right, and what begins like one may turn out to be none: the
name may be malformed, or its brace may be missing. What has been begun never reaches over the next
`$` all the same, since `$` is neither part of a name nor a brace. So a text may be cut before any
`$` and its parts expanded by themselves, and a reference is replaced whatever stands before it. The
value is no part of what is still to be read, so references that it holds stay as they are.

Headlines:
* `readName?_eq_some_iff`: what is split off is a name and its brace;
* `expandChars_append_dollar`: a text may be cut before a `$`;
* `expandChars_of_unset`: text stays as it is if it refers to no variable that is set;
* **`expand_substitutes`**: every reference is replaced where it stands, and nothing else is.
-/

namespace RowFilter
namespace Environment

variable {cs name rest : List Char} (env : Environment)

/-! ## What is read of a reference -/

theorem readName?_eq_some_iff :
    readName? cs = some (name, rest) ↔ isName name = true ∧ cs = name ++ '}' :: rest := by
  constructor
  · intro h
    have hcut := List.takeWhile_append_dropWhile (p := isNamePart) (l := cs)
    unfold readName? at h
    split at h
    · rename_i tail htail
      split at h
      · rename_i hname
        simp only [Option.some.injEq, Prod.mk.injEq] at h
        obtain ⟨rfl, rfl⟩ := h
        exact ⟨hname, by rw [← htail, hcut]⟩
      · cases h
    · cases h
  · rintro ⟨hname, rfl⟩
    exact readName?_reference hname rest

theorem dollar_notMem_of_isName (h : isName name = true) : '$' ∉ name := fun hmem =>
  absurd (isNamePart_of_mem h _ hmem) (by decide)

/-- A reference that has been begun ends before the next `$` or not at all. -/
theorem readName?_append_dollar (cs rest : List Char) :
    readName? (cs ++ '$' :: rest) =
      (readName? cs).map fun (name, tail) => (name, tail ++ '$' :: rest) := by
  cases h : readName? cs with
  | some found =>
    obtain ⟨name, tail⟩ := found
    obtain ⟨hname, rfl⟩ := readName?_eq_some_iff.mp h
    exact readName?_eq_some_iff.mpr ⟨hname, by simp⟩
  | none =>
    rw [Option.map_none, Option.eq_none_iff_forall_ne_some]
    rintro ⟨name, tail⟩ hfound
    obtain ⟨hname, hcut⟩ := readName?_eq_some_iff.mp hfound
    -- the brace stands before the `$`, or at it, or behind it
    obtain ⟨more, rfl, hmore⟩ | ⟨more, rfl, hmore⟩ := List.append_eq_append_iff.mp hcut
    · cases more with
      | nil => cases hmore
      | cons d more =>
        have hd : d = '$' := (List.cons.inj hmore).1.symm
        exact dollar_notMem_of_isName hname (by simp [hd])
    · cases more with
      | nil => cases hmore
      | cons d more =>
        have hd : d = '}' := (List.cons.inj hmore).1.symm
        subst hd
        rw [readName?_reference hname] at h
        cases h

/-! ## Text before a reference -/

theorem expandChars_brace_of_none (h : readName? cs = none) :
    env.expandChars ('$' :: '{' :: cs) = '$' :: env.expandChars ('{' :: cs) := by
  rw [expandChars]
  split
  · rename_i hsome
    rw [h] at hsome
    cases hsome
  · rfl

/-- A character that opens no reference is kept. -/
theorem expandChars_cons {c : Char} (h : ∀ more, c :: cs ≠ '$' :: '{' :: more) :
    env.expandChars (c :: cs) = c :: env.expandChars cs := by
  rw [expandChars]
  rintro more rfl rfl
  exact h more rfl

/-- **A text may be cut before a `$`**: whatever has been begun there is decided by then. -/
theorem expandChars_append_dollar (before rest : List Char) :
    env.expandChars (before ++ '$' :: rest) =
      env.expandChars before ++ env.expandChars ('$' :: rest) := by
  fun_induction expandChars env before with
  | case1 => rfl
  | case2 cs name tail hread _ ih =>
    obtain ⟨hname, rfl⟩ := readName?_eq_some_iff.mp hread
    have hcut : '$' :: '{' :: (name ++ '}' :: tail) ++ '$' :: rest =
        reference name ++ (tail ++ '$' :: rest) := by simp [reference]
    rw [hcut, expand_reference env hname, ih, List.append_assoc]
  | case3 cs hread ih =>
    -- what is no reference does not become one by what follows
    have hnone : readName? (cs ++ '$' :: rest) = none := by
      rw [readName?_append_dollar, hread, Option.map_none]
    rw [List.cons_append, List.cons_append, expandChars_brace_of_none env hnone]
    rw [List.cons_append, ← ih, List.cons_append]
  | case4 c cs hplain ih =>
    have hopen : ∀ more, c :: (cs ++ '$' :: rest) ≠ '$' :: '{' :: more := by
      intro more heq
      cases cs with
      | nil => cases heq
      | cons d cs =>
        simp only [List.cons_append, List.cons.injEq] at heq
        exact hplain cs heq.1 (by rw [heq.2.1])
    rw [List.cons_append, expandChars_cons env hopen, ih, List.cons_append]

/-! ## Text without references -/

/-- The text refers to no variable that is set. -/
def RefersToNone (text : List Char) : Prop :=
  ∀ name, isName name = true → reference name <:+: text → env.get? (String.ofList name) = none

theorem RefersToNone.of_suffix {part text : List Char} (h : env.RefersToNone text)
    (hpart : part <:+ text) : env.RefersToNone part := fun name hname hin =>
  h name hname (hin.trans hpart.isInfix)

theorem expandChars_of_unset {text : List Char} (h : env.RefersToNone text) :
    env.expandChars text = text := by
  fun_induction expandChars env text with
  | case1 => rfl
  | case2 cs name tail hread _ ih =>
    obtain ⟨hname, rfl⟩ := readName?_eq_some_iff.mp hread
    have hcut : '$' :: '{' :: (name ++ '}' :: tail) = reference name ++ tail := by simp [reference]
    rw [hcut] at h ⊢
    have hunset := h name hname (List.prefix_append _ _).isInfix
    rw [ih (h.of_suffix env (List.suffix_append _ _)), valueOf, hunset]
  | case3 cs hread ih => rw [ih (h.of_suffix env (List.suffix_cons _ _))]
  | case4 c cs _ ih => rw [ih (h.of_suffix env (List.suffix_cons _ _))]

/-! ## The substitution -/

/-- The reference to a variable, as it stands in a text. -/
def referTo (name : String) : String := "$\x7b" ++ name ++ "\x7d"

theorem toList_referTo (name : String) : (referTo name).toList = reference name.toList := by
  simp [referTo, reference]

theorem toList_valueOf (name : String) :
    env.valueOf name.toList = ((env.get? name).getD (referTo name)).toList := by
  unfold valueOf
  rw [String.ofList_toList]
  cases env.get? name with
  | some value => rfl
  | none => exact (toList_referTo name).symm

theorem expand_append_referTo (before after : String) {name : String}
    (h : isName name.toList = true) : env.expand (before ++ referTo name ++ after) =
      env.expand before ++ (env.get? name).getD (referTo name) ++ env.expand after := by
  have htext : (before ++ referTo name ++ after).toList =
      before.toList ++ '$' :: ('{' :: name.toList ++ '}' :: after.toList) := by
    simp [toList_referTo, reference]
  have hrest : '$' :: ('{' :: name.toList ++ '}' :: after.toList) =
      reference name.toList ++ after.toList := by simp [reference]
  rw [expand, htext, expandChars_append_dollar, hrest, expand_reference env h, toList_valueOf]
  simp [expand, String.append_assoc]

theorem expand_eq_self {text : String} (h : ∀ before name after : String,
    isName name.toList = true → text ≠ before ++ referTo name ++ after) :
    env.expand text = text := by
  have hnone : env.RefersToNone text.toList := by
    rintro name hname ⟨before, after, hcut⟩
    refine absurd ?_ (h (.ofList before) (.ofList name) (.ofList after) (by simpa using hname))
    apply String.toList_injective
    simp [toList_referTo, hcut]
  rw [expand, expandChars_of_unset env hnone, String.ofList_toList]

/-- Expansion is one substitution. A reference is replaced by the value of its variable, or kept if
the variable is not set; what stands before it and behind it is expanded by itself, and the value
not at all. Text without a reference is kept. -/
theorem expand_substitutes (env : Environment) :
    (∀ before name after : String, isName name.toList = true →
      env.expand (before ++ referTo name ++ after) =
        env.expand before ++ (env.get? name).getD (referTo name) ++ env.expand after) ∧
    (∀ text : String,
      (∀ before name after : String, isName name.toList = true →
        text ≠ before ++ referTo name ++ after) → env.expand text = text) :=
  ⟨fun before _ after h => env.expand_append_referTo before after h,
    fun _ h => env.expand_eq_self h⟩

/-- What is begun before the reference is no part of it, and the reference inside the value is not
looked at. -/
theorem expand_substitutes_within_begun :
    (Environment.ofList [("A", "$\x7bB\x7d"), ("B", "x")]).expand "$\x7bA$\x7bA\x7d\x7d" =
      "$\x7bA$\x7bB\x7d\x7d" := by
  have hsubst := expand_substitutes (Environment.ofList [("A", "$\x7bB\x7d"), ("B", "x")])
  -- a reference holds both its opening mark and its brace
  have hopen := hsubst.2 "$\x7bA" fun before name after _ heq => by
    have hbrace : '}' ∉ "$\x7bA".toList := by decide
    rw [heq] at hbrace
    simp [referTo] at hbrace
  have hclose := hsubst.2 "\x7d" fun before name after _ heq => by
    have hdollar : '$' ∉ "\x7d".toList := by decide
    rw [heq] at hdollar
    simp [referTo] at hdollar
  have hname := hsubst.1 "$\x7bA" "A" "\x7d" (by decide)
  rw [hopen, hclose] at hname
  exact hname

end Environment
end RowFilter
