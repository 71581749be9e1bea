import RowFilter.Proofs.Operator.Naming
import RowFilter.Record.FieldTable

/-!
# What an implementation says

An implementation is text for a compiler. Of what it would mean there only one part matters here:
the vector that its one method gives back, in which an expression makes each field. The expression
calls a constructor with a description of the field and the value of the member; the description is
made by a constructor with a name and an operator, on which further methods are called.

Headlines:
* `vector?_implementation`: the vector holds the entries of the table, in order;
* `Describes.unique`: an expression describes one field;
* **`constructs_tokens_iff`**: the expression of an entry makes the field of the entry, and no
  other.
-/

namespace RowFilter.Record

/-! ## The vector -/

/-- What stands between the brackets that some tokens end with. -/
def lastGroup? (b : Bracket) (ts : List Token) : Option (List Token) :=
  match ts.getLast? with
  | some (.group d content) => if d = b then some content else none
  | _ => none

theorem lastGroup?_append (b : Bracket) (ts content : List Token) :
    lastGroup? b (ts ++ [.group b content]) = some content := by
  simp [lastGroup?]

/-- What stands between the brackets of the vector. It is all that the result is made of, which is
the last thing in the body of the method, which is the last of the implementation. -/
def vector? (ts : List Token) : Option (List Token) := do
  let implementation ← lastGroup? .curly ts
  let method ← lastGroup? .curly implementation
  let result ← lastGroup? .round method
  lastGroup? .square result

/-- **The vector holds the entries of the table**, in order. -/
theorem vector?_implementation (t : FieldTable) :
    vector? t.implementation =
      some ([comma].intercalate (t.entries.map (Entry.tokens t.library))) := by
  have hvector : ∀ ts content,
      lastGroup? .square (ts ++ [.mark '!' false, .group .square content]) = some content := by
    intro ts content
    rw [← List.singleton_append, ← List.append_assoc]
    exact lastGroup?_append .square _ content
  unfold vector? FieldTable.implementation
  simp only [lastGroup?_append, hvector, Option.bind_eq_bind, Option.bind_some, entryTokens]

/-! ## Expressions -/

/-- An expression describes a field. -/
inductive Describes (library : Library) : FieldSpec → List Token → Prop
  | new (name : String) (op : Operator) :
      Describes library { name, operator := op } (under library ["FieldSpec", "new"] ++
        [.group .round ([Token.quoted name, comma] ++
          under library ["OperatorKind", operatorVariant op])])
  | column {spec : FieldSpec} {ts : List Token} (column : String)
      (h : Describes library spec ts) :
      Describes library (spec.withColumn column) (ts ++ call "column" [Token.quoted column])
  | blurry {spec : FieldSpec} {ts : List Token} (targets : List String)
      (h : Describes library spec ts) :
      Describes library (spec.blurry targets)
        (ts ++ call "blurry" [.group .square ((targets.map Token.quoted).intersperse comma)])

/-- An expression makes a field from its description and the value of a member. -/
inductive Constructs (library : Library) : FieldSpec → Word → List Token → Prop
  | new {spec : FieldSpec} {ts : List Token} (member : Word) (h : Describes library spec ts) :
      Constructs library spec member (under library ["CriteriaField", "new"] ++
        [.group .round (ts ++ [comma] ++ (under library ["ToFilterValue", "to_filter_value"] ++
          [.group .round [.mark '&' false, Token.plain "self", .mark '.' false, .word member]]) ++
          [comma])])

variable {library : Library}

theorem quoted_injective : Function.Injective Token.quoted := by
  intro a b h
  simp only [Token.quoted, Token.literal.injEq, Literal.text.injEq] at h
  exact h.1

theorem intersperse_injective (t : Token) : Function.Injective (List.intersperse t)
  | [], [], _ => rfl
  | [], [_], h => by cases h
  | [], _ :: _ :: _, h => by cases h
  | [_], [], h => by cases h
  | [_], [_], h => h
  | [_], _ :: _ :: _, h => by cases h
  | _ :: _ :: _, [], h => by cases h
  | _ :: _ :: _, [_], h => by cases h
  | a :: a' :: as, b :: b' :: bs, h => by
    obtain ⟨hab, -, hrest⟩ : a = b ∧ t = t ∧
        (a' :: as).intersperse t = (b' :: bs).intersperse t := by
      simpa [List.intersperse] using h
    rw [hab, intersperse_injective t hrest]

/-- The word of an operator is its name but for the case of the letters. -/
theorem goesBy_operatorWord (op : Operator) : op.GoesBy (operatorWord op) :=
  ⟨op.name, List.mem_cons_self, by cases op <;> decide +kernel⟩

theorem operatorWord_injective : Function.Injective operatorWord := by
  intro a b h
  have ha := Operator.ofName_eq_ok_iff.mpr (goesBy_operatorWord a)
  rw [h, Operator.ofName_eq_ok_iff.mpr (goesBy_operatorWord b)] at ha
  exact (Except.ok.inj ha).symm

/-- Different operators are written as different variants, since their words are different. -/
theorem operatorVariant_injective : Function.Injective operatorVariant := by
  intro a b h
  apply operatorWord_injective
  rw [← underscore_operatorVariant, h, underscore_operatorVariant]

theorem append_call_inj {ts us : List Token} {method method' : String}
    {arguments arguments' : List Token}
    (h : ts ++ call method arguments = us ++ call method' arguments') :
    ts = us ∧ method = method' ∧ arguments = arguments' := by
  obtain ⟨hts, hcall⟩ := List.append_inj' h rfl
  simp only [call, Token.plain, List.cons.injEq, Token.word.injEq, Word.mk.injEq,
    Token.group.injEq, and_true, true_and] at hcall
  exact ⟨hts, hcall⟩

/-- A constructor call ends like a method call, but with a colon in place of the dot. -/
theorem under_new_ne_call {name : String} {g : Token} {ts : List Token} {method : String}
    {arguments : List Token} :
    under library [name, "new"] ++ [g] ≠ ts ++ call method arguments := by
  have hend : under library [name, "new"] ++ [g] =
      (library ++ separator ++ [Token.plain name, .mark ':' true]) ++
        [.mark ':' false, Token.plain "new", g] := by
    simp [under, separator, Token.sign]
  intro h
  rw [hend] at h
  have hmark := (List.append_inj' h rfl).2
  simp [call] at hmark

/-- **An expression describes one field.** -/
theorem Describes.unique {spec spec' : FieldSpec} {ts : List Token}
    (h : Describes library spec ts) (h' : Describes library spec' ts) : spec = spec' := by
  -- The tokens of the second description are only equal to those of the first: as an index of both
  -- they could not be taken apart.
  generalize hts : ts = us at h'
  induction h generalizing spec' us with
  | new name op =>
    cases h' with
    | new name' op' =>
      obtain ⟨hname, hop⟩ : Token.quoted name = Token.quoted name' ∧
          operatorVariant op = operatorVariant op' := by
        simpa [under, Token.plain] using List.append_cancel_left hts
      rw [quoted_injective hname, operatorVariant_injective hop]
    | column column' h' => exact absurd hts under_new_ne_call
    | blurry targets' h' => exact absurd hts under_new_ne_call
  | column column h ih =>
    cases h' with
    | new name' op' => exact absurd hts.symm under_new_ne_call
    | column column' h' =>
      obtain ⟨hts, -, hcolumn⟩ := append_call_inj hts
      rw [ih _ hts h', quoted_injective (List.head_eq_of_cons_eq hcolumn)]
    | blurry targets' h' => exact absurd (append_call_inj hts).2.1 (by decide)
  | blurry targets h ih =>
    cases h' with
    | new name' op' => exact absurd hts.symm under_new_ne_call
    | column column' h' => exact absurd (append_call_inj hts).2.1 (by decide)
    | blurry targets' h' =>
      obtain ⟨hts, -, htargets⟩ := append_call_inj hts
      have hcontent := (Token.group.inj (List.head_eq_of_cons_eq htargets)).2
      have hquoted := intersperse_injective comma hcontent
      rw [ih _ hts h', (List.map_inj_right fun _ _ h => quoted_injective h).mp hquoted]

theorem Constructs.unique {spec spec' : FieldSpec} {member member' : Word} {ts : List Token}
    (h : Constructs library spec member ts) (h' : Constructs library spec' member' ts) :
    spec = spec' ∧ member = member' := by
  generalize hts : ts = us at h'
  obtain ⟨_, h⟩ := h
  obtain ⟨_, h'⟩ := h'
  have hgroup := (Token.group.inj (List.head_eq_of_cons_eq (List.append_cancel_left hts))).2
  obtain ⟨hcall, -⟩ := List.append_inj' hgroup rfl
  obtain ⟨hspec, hvalue⟩ := List.append_inj' hcall (by simp)
  obtain rfl := List.append_cancel_right hspec
  exact ⟨h.unique h', by simpa using List.append_cancel_left hvalue⟩

/-- Without search targets nothing is called to add them. -/
theorem Describes.withTargets {spec : FieldSpec} {ts : List Token} (h : Describes library spec ts)
    (targets : List String) :
    Describes library (spec.blurry targets) (ts ++ if targets.isEmpty then []
      else call "blurry" [.group .square ((targets.map Token.quoted).intersperse comma)]) := by
  cases targets with
  | nil =>
    rw [List.isEmpty_nil, if_pos rfl, List.append_nil]
    exact h
  | cons target targets => exact h.blurry (target :: targets)

/-- The expression of an entry makes the field of the entry. -/
theorem constructs_tokens (library : Library) (e : Entry) :
    Constructs library e.spec e.member (e.tokens library) := by
  refine .new e.member (.withTargets ?_ e.targets)
  cases e.column with
  | none =>
    show Describes library _ (_ ++ [])
    rw [List.append_nil]
    exact .new e.member.name e.operator
  | some column => exact .column column (.new e.member.name e.operator)

/-- **The expression of an entry makes the field of the entry**, and no other. -/
theorem constructs_tokens_iff {spec : FieldSpec} {e : Entry} {member : Word} :
    Constructs library spec member (e.tokens library) ↔ spec = e.spec ∧ member = e.member := by
  constructor
  · intro h
    exact h.unique (constructs_tokens library e)
  · rintro ⟨rfl, rfl⟩
    exact constructs_tokens library e

end RowFilter.Record
