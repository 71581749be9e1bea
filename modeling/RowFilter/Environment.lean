/-!
# Environment variables

An `Environment` says which variables are set, and to what. Text may refer to a variable as
`${NAME}`, where the name is a letter or `_` followed by letters, digits and `_`, all of them ASCII.
`expand` puts the values in place of the references in one pass from left to right: a value is taken
as it is, whatever it holds, and a reference to a variable that is not set is left alone.

Headline: `expand_reference`: what becomes of a reference at the head of a text.
-/

namespace RowFilter

/-- The variables that are set. -/
structure Environment where
  get? : String → Option String

namespace Environment

/-- Nothing is set. -/
def empty : Environment := ⟨fun _ => none⟩

/-- One more variable is set, or an old one anew. -/
def set (env : Environment) (name value : String) : Environment :=
  ⟨fun n => if n = name then some value else env.get? n⟩

/-- The variables of a list; of two entries for one name the later counts. -/
def ofList (entries : List (String × String)) : Environment :=
  entries.foldl (fun env (name, value) => env.set name value) empty

/-! ## References -/

/-- A character that can begin a name. -/
def isNameStart (c : Char) : Bool := c.isAlpha || c == '_'

/-- A character that can go on with a name. -/
def isNamePart (c : Char) : Bool := c.isAlphanum || c == '_'

/-- The characters form the name of a variable. -/
def isName : List Char → Bool
  | [] => false
  | c :: cs => isNameStart c && cs.all isNamePart

/-- The reference to a name. -/
def reference (name : List Char) : List Char := '$' :: '{' :: name ++ ['}']

/-- Splits off the name and the closing brace of a reference whose opening has been read. -/
def readName? (cs : List Char) : Option (List Char × List Char) :=
  match cs.dropWhile isNamePart with
  | '}' :: rest =>
    if isName (cs.takeWhile isNamePart) then some (cs.takeWhile isNamePart, rest) else none
  | _ => none

/-- Reading a name takes characters, which is what makes expanding end. -/
theorem length_rest_of_readName? {cs name rest : List Char} (h : readName? cs = some (name, rest)) :
    rest.length < cs.length := by
  unfold readName? at h
  have hl := (List.dropWhile_suffix isNamePart (l := cs)).length_le
  split at h
  · rename_i r hr
    split at h
    · simp only [Option.some.injEq, Prod.mk.injEq] at h
      rw [hr, List.length_cons] at hl
      rw [← h.2]
      omega
    · cases h
  · cases h

/-- What stands for a reference in expanded text. -/
def valueOf (env : Environment) (name : List Char) : List Char :=
  match env.get? (String.ofList name) with
  | some value => value.toList
  | none => reference name

/-- The characters of a text with the references to set variables replaced. -/
def expandChars (env : Environment) : List Char → List Char
  | [] => []
  | '$' :: '{' :: cs =>
    match h : readName? cs with
    | some (name, rest) =>
      have := length_rest_of_readName? h
      env.valueOf name ++ env.expandChars rest
    | none => '$' :: env.expandChars ('{' :: cs)
  | c :: cs => c :: env.expandChars cs
termination_by cs => cs.length
decreasing_by
  all_goals simp only [List.length_cons]
  all_goals omega

/-- The text with the references to set variables replaced (`expand_env_vars`). -/
def expand (env : Environment) (text : String) : String :=
  String.ofList (env.expandChars text.toList)

/-- What can begin a name can go on with it. -/
theorem isNamePart_of_isNameStart {c : Char} (h : isNameStart c = true) : isNamePart c = true := by
  simp only [isNameStart, Bool.or_eq_true] at h
  simp only [isNamePart, Char.isAlphanum, Bool.or_eq_true]
  exact h.imp_left .inl

/-- Every character of a name can go on with one. -/
theorem isNamePart_of_mem {name : List Char} (h : isName name = true) :
    ∀ c ∈ name, isNamePart c = true := by
  cases name with
  | nil => cases h
  | cons c cs =>
    simp only [isName, Bool.and_eq_true, List.all_eq_true] at h
    rw [List.forall_mem_cons]
    exact ⟨isNamePart_of_isNameStart h.1, h.2⟩

/-- The name of a reference is read back. -/
theorem readName?_reference {name : List Char} (h : isName name = true) (rest : List Char) :
    readName? (name ++ '}' :: rest) = some (name, rest) := by
  have hp := isNamePart_of_mem h
  have hstop : isNamePart '}' = false := by decide
  have hdrop : (name ++ '}' :: rest).dropWhile isNamePart = '}' :: rest := by
    rw [List.dropWhile_append_of_pos hp]
    simp [List.dropWhile, hstop]
  have htake : (name ++ '}' :: rest).takeWhile isNamePart = name := by
    rw [List.takeWhile_append_of_pos hp]
    simp [List.takeWhile, hstop]
  simp [readName?, hdrop, htake, h]

/-- What stands for a reference is put there, and is not looked at again. -/
theorem expand_reference (env : Environment) {name : List Char} (h : isName name = true)
    (rest : List Char) :
    env.expandChars (reference name ++ rest) = env.valueOf name ++ env.expandChars rest := by
  have hr : reference name ++ rest = '$' :: '{' :: (name ++ '}' :: rest) := by
    simp [reference]
  rw [hr, expandChars]
  split
  · rename_i n r hn
    rw [readName?_reference h] at hn
    simp only [Option.some.injEq, Prod.mk.injEq] at hn
    obtain ⟨rfl, rfl⟩ := hn
    rfl
  · rename_i hn
    rw [readName?_reference h] at hn
    cases hn

end Environment
end RowFilter
