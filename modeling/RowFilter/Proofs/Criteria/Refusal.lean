import RowFilter.Proofs.Criteria.Suitability

/-!
# Why criteria are refused

Criteria are compiled field by field, and there is no filter unless every field that applies
compiles. `LacksOperand` lists why a value makes no operand of an arity, and `Refuses` why a field
that applies is refused. The first list is longer by one reason: a field without a value does not
apply to an operator that takes a sequence, so it never gets as far as to be refused for that.

Headlines:
* `operandOf_eq_error_iff`: a value makes no operand for the listed reasons only;
* `Field.compile_eq_error_iff`: neither is a field that applies refused for any other;
* `Field.Refuses.names`: a fault about a value names the field;
* **`build_decomposes`**: criteria become the conjunction of what their fields become, or fail with
  the first field that is refused.
-/

namespace RowFilter

/-! ## Operands -/

section Operands

variable {spec : FieldSpec} {value : Value} {arity : Arity} {e : Fault}

/-- The fault of a field that takes one value and is given a list. -/
def listFound (spec : FieldSpec) : Fault :=
  .invalidParameter spec.name s!"{spec.operator.name} expects a single value, found a list"

/-- Why the value of a field makes no operand of an arity, and the fault that tells of it. -/
inductive LacksOperand (spec : FieldSpec) (value : Value) : Arity → Fault → Prop where
  | one {items : List Value} (h : value = .list items) :
      LacksOperand spec value .one (listFound spec)
  | two (h : value.slice.length ≠ 2) : LacksOperand spec value .two (.invalidRange spec.name)
  | many (h : value = .null ∨ value.slice = []) :
      LacksOperand spec value .many (.emptyCollection spec.name)

theorem singleOperand_eq_error_iff :
    singleOperand spec value = .error e ↔ (∃ items, value = .list items) ∧ e = listFound spec := by
  cases value <;> simp [singleOperand, listFound, eq_comm]

/-- **A value makes no operand** for one of the reasons. -/
theorem operandOf_eq_error_iff :
    operandOf spec value arity = .error e ↔ LacksOperand spec value arity e := by
  constructor
  · intro he
    cases arity with
    | none => cases he
    | one =>
      obtain ⟨⟨items, hvalue⟩, rfl⟩ := singleOperand_eq_error_iff.mp (Outcome.map_error_iff.mp he)
      exact .one hvalue
    | two =>
      rw [operandOf] at he
      split at he
      · cases he
      · rename_i hpair
        obtain rfl := Except.error.inj he
        refine .two fun hlength => ?_
        obtain ⟨low, high, hslice⟩ := List.length_eq_two.mp hlength
        exact hpair low high hslice
    | many =>
      rw [operandOf] at he
      split at he
      · rename_i hempty
        obtain rfl := Except.error.inj he
        refine .many ?_
        cases value <;> simp_all [Value.isNull, Value.slice]
      · cases he
  · intro he
    cases he with
    | one hvalue =>
      exact Outcome.map_error_iff.mpr (singleOperand_eq_error_iff.mpr ⟨⟨_, hvalue⟩, rfl⟩)
    | two hlength =>
      rw [operandOf]
      split
      · rename_i hslice
        exact absurd (by rw [hslice]; rfl) hlength
      · rfl
    | many hempty =>
      rw [operandOf, if_pos]
      rcases hempty with rfl | hslice
      · rfl
      · rw [hslice, List.isEmpty_nil, Bool.or_true]

/-- The reason is found at the arity that is needed, also where a fuzzy field never asks for it. -/
theorem FieldSpec.compileBy_eq_error_iff :
    spec.compileBy value spec.needed.rule = .error e ↔
      LacksOperand spec value spec.needed.arity e := by
  rw [← operandOf_eq_error_iff, compileBy]
  by_cases hb : spec.isBlurry = true
  · rw [if_pos hb, needed, if_pos hb, Outcome.map_error_iff]
    exact Outcome.map_error_iff.symm
  · rw [if_neg hb, Outcome.map_error_iff]
    rfl

end Operands

/-! ## One field -/

theorem Operator.arity_eq_two_iff {op : Operator} : op.arity = .two ↔ op = .between := by
  cases op <;> decide

/-- A value that is given is a sequence of at least one. -/
theorem Value.slice_ne_nil_of_isEmpty {value : Value} (h : value.isEmpty = false) :
    value.slice ≠ [] := by
  cases value <;> simp_all [slice, isEmpty]

namespace Field

variable {registry : Registry} {f : Field} {e : Fault} {p : Predicate}

/-- Why a field that applies is refused, and the fault that tells of it. -/
inductive Refuses (registry : Registry) (f : Field) : Fault → Prop where
  /-- The operator that the field needs is not in use. -/
  | operator (h : registry.contains f.spec.needed = false) :
      Refuses registry f (.unsupportedOperator f.spec.needed.name)
  /-- A range is needed, and there are not exactly two values. -/
  | range (h : registry.contains f.spec.needed = true) (hop : f.spec.needed = .between)
      (hlength : f.value.slice.length ≠ 2) : Refuses registry f (.invalidRange f.spec.name)
  /-- One value is needed, as it is for each search of a fuzzy field, and there is a list. -/
  | list (h : registry.contains f.spec.needed = true) (hop : f.spec.needed.arity = .one)
      {items : List Value} (hvalue : f.value = .list items) : Refuses registry f (listFound f.spec)

/-- **A field that applies** is refused for one of the reasons. That there are no values to look
among is none of them: without a value, such a field does not apply. -/
theorem compile_eq_error_iff {h : Registry.History} (hf : f.isApplicable = true) :
    f.compile h.registry = .error e ↔ f.Refuses h.registry e := by
  rw [Field.compile, compile_eq_bind, Outcome.bind_error_iff, Registry.History.rule_registry]
  constructor
  · rintro (he | ⟨rule, hrule, he⟩)
    · split at he
      · cases he
      · rename_i hcontains
        obtain rfl := Except.error.inj he
        exact .operator (Bool.not_eq_true _ ▸ hcontains)
    · split at hrule
      · rename_i hcontains
        obtain rfl := Except.ok.inj hrule
        have hlacks := FieldSpec.compileBy_eq_error_iff.mp he
        generalize hop : f.spec.needed.arity = arity at hlacks
        cases hlacks with
        | one hvalue => exact .list hcontains hop hvalue
        | two hlength => exact .range hcontains (Operator.arity_eq_two_iff.mp hop) hlength
        | many hempty =>
          have hgiven : f.value.isEmpty = false :=
            (isApplicable_iff.mp hf).resolve_left (by simp [hop])
          rcases hempty with hnull | hslice
          · exact absurd hnull (ne_null_of_isEmpty hgiven)
          · exact absurd hslice (Value.slice_ne_nil_of_isEmpty hgiven)
      · cases hrule
  · intro he
    cases he with
    | operator hcontains => exact .inl (if_neg (by simp [hcontains]))
    | range hcontains hop hlength =>
      refine .inr ⟨_, if_pos hcontains, FieldSpec.compileBy_eq_error_iff.mpr ?_⟩
      rw [Operator.arity_eq_two_iff.mpr hop]
      exact .two hlength
    | list hcontains hop hvalue =>
      refine .inr ⟨_, if_pos hcontains, FieldSpec.compileBy_eq_error_iff.mpr ?_⟩
      rw [hop]
      exact .one hvalue

/-- **What a fault names**: it is about an operator, or names the field. -/
theorem Refuses.names (h : f.Refuses registry e) :
    e.code = .unsupportedOperator ∨
      (e.code = .invalidRange ∨ e.code = .invalidParameter) ∧ e.Names f.spec.name := by
  cases h with
  | operator => exact .inl rfl
  | range => exact .inr ⟨.inl rfl, Fault.names_invalidRange _⟩
  | list => exact .inr ⟨.inr rfl, Fault.names_invalidParameter _ _⟩

/-- Whether a field applies: it has a value, or is a null test that is not fuzzy. -/
theorem isApplicable_iff_given_or_nullTest :
    f.isApplicable = true ↔ f.value.isEmpty = false ∨ f.spec.isBlurry = false ∧
      (f.spec.operator = .isNull ∨ f.spec.operator = .isNotNull) := by
  rw [isApplicable, FieldSpec.acceptsEmpty, Bool.or_eq_true, Bool.and_eq_true,
    Operator.acceptsEmpty_iff, Bool.not_eq_true', Bool.not_eq_true', or_comm]

/-- A fuzzy field becomes the disjunction of its searches, also where there is just one. -/
theorem eq_or_of_compile (hb : f.spec.isBlurry = true) (hp : f.compile registry = .ok p) :
    p = .or (f.spec.targets.map (searchOf f.value)) := by
  obtain ⟨_, -, hcompiled⟩ := compile_eq_ok_iff.mp hp
  cases hcompiled with
  | searches => rfl
  | comparison hb' => exact absurd (hb.symm.trans hb') nofun

end Field

/-! ## All fields -/

section Fields

variable {registry : Registry} {fields : List Field} {e : Fault}

/-- There is a filter exactly if every field that applies compiles. -/
theorem exists_build_eq_ok_iff :
    (∃ p, build registry fields = .ok p) ↔
      ∀ f ∈ fields, f.isApplicable = true → ∃ child, f.compile registry = .ok child := by
  rw [← Outcome.refusal?_eq_none_iff, build, Outcome.refusal?_map, Outcome.refusal?_eq_none_iff,
    Outcome.exists_mapM_eq_ok_iff]
  simp only [mem_applicable, and_imp]

/-- Otherwise the first of them that fails decides. -/
theorem build_eq_error_iff :
    build registry fields = .error e ↔ ∃ before f after, applicable fields = before ++ f :: after ∧
      f.compile registry = .error e ∧ ∀ g ∈ before, ∃ child, g.compile registry = .ok child := by
  rw [build, Outcome.map_error_iff]
  exact Outcome.mapM_eq_error_iff

/-- Every fault of criteria is one of a field that applies. -/
theorem exists_refuses_of_build {h : Registry.History} (he : build h.registry fields = .error e) :
    ∃ f ∈ fields, f.isApplicable = true ∧ f.Refuses h.registry e := by
  obtain ⟨before, f, after, hsplit, hrefused, -⟩ := build_eq_error_iff.mp he
  have hmem : f ∈ applicable fields := hsplit ▸ List.mem_append_right _ List.mem_cons_self
  obtain ⟨hf, happlies⟩ := mem_applicable.mp hmem
  exact ⟨f, hf, happlies, (Field.compile_eq_error_iff happlies).mp hrefused⟩

end Fields

/-- What becomes of criteria is settled field by field. -/
structure Decomposes (registry : Registry) (fields : List Field) : Prop where
  /-- A field applies that has a value, or is a null test and not fuzzy. -/
  applies_iff : ∀ f : Field, f.isApplicable = true ↔ f.value.isEmpty = false ∨
    f.spec.isBlurry = false ∧ (f.spec.operator = .isNull ∨ f.spec.operator = .isNotNull)
  /-- There is a filter exactly if every field that applies compiles. -/
  exists_ok_iff : (∃ p, build registry fields = .ok p) ↔
    ∀ f ∈ fields, f.isApplicable = true → ∃ child, f.compile registry = .ok child
  /-- It is the conjunction of what these fields become, one member each, in their order. -/
  eq_ok_iff : ∀ p, build registry fields = .ok p ↔ ∃ children, p = .and children ∧
    List.Forall₂ (fun f child => f.compile registry = .ok child)
      (fields.filter Field.isApplicable) children
  /-- The member of a fuzzy field is the disjunction of its searches, even of a single one. -/
  fuzzy : ∀ f ∈ fields, f.isApplicable = true → f.spec.isBlurry = true → ∀ child,
    f.compile registry = .ok child → child = .or (f.spec.targets.map (searchOf f.value))
  /-- Otherwise the first of the fields that fails decides. -/
  eq_error_iff : ∀ e, build registry fields = .error e ↔ ∃ before f after,
    fields.filter Field.isApplicable = before ++ f :: after ∧ f.compile registry = .error e ∧
      ∀ g ∈ before, ∃ child, g.compile registry = .ok child
  /-- It fails for its operator or for its value. -/
  refuses_iff : ∀ f ∈ fields, f.isApplicable = true → ∀ e,
    f.compile registry = .error e ↔ f.Refuses registry e
  /-- A fault that is not about an operator names the field. -/
  names : ∀ f ∈ fields, f.isApplicable = true → ∀ e, f.Refuses registry e →
    e.code = .unsupportedOperator ∨
      (e.code = .invalidRange ∨ e.code = .invalidParameter) ∧ e.Names f.spec.name
  /-- No field fails for an empty sequence. -/
  code_ne_emptyCollection : ∀ e, build registry fields = .error e → e.code ≠ .emptyCollection

/-- **Criteria are compiled field by field**, whatever operators are in use: they become the
conjunction of what the fields that apply become, or fail with the first of these that is refused,
and there is nothing in between. -/
theorem build_decomposes (h : Registry.History) (fields : List Field) :
    Decomposes h.registry fields where
  applies_iff _ := Field.isApplicable_iff_given_or_nullTest
  exists_ok_iff := exists_build_eq_ok_iff
  eq_ok_iff _ := build_eq_ok_iff
  fuzzy f _ _ hb _ := f.eq_or_of_compile hb
  eq_error_iff _ := build_eq_error_iff
  refuses_iff _ _ happlies _ := Field.compile_eq_error_iff happlies
  names _ _ _ _ := Field.Refuses.names
  code_ne_emptyCollection e he := by
    obtain ⟨f, -, -, hrefuses⟩ := exists_refuses_of_build he
    rcases hrefuses.names with hcode | ⟨hcode | hcode, -⟩ <;> rw [hcode] <;> exact nofun

/-- The field without a value is passed over, and the range without a second bound is refused. -/
example : build .standard
    [⟨{ name := "ids", operator := .isIn }, .list []⟩,
     ⟨{ name := "q", operator := .equal, targets := ["name"] }, .text "a"⟩,
     ⟨{ name := "age", operator := .between }, .list [.int 18]⟩] =
    .error (.invalidRange "age") := by
  rfl

end RowFilter
