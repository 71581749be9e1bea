import RowFilter.Proofs.Criteria.Binding
import RowFilter.Proofs.Sql.Refusal

/-!
# Compiled criteria can be written

Emptiness is decided before a field is compiled, and the operand of a field is made for the arity of
the operator that it is compared with. Between them the two make sure that compiled criteria are
suited. A field bound to a request body holds no JSON besides, so nothing but the columns of the
schema can keep the criteria of a body from being written.

Headlines:
* `isApplicable_iff`: a field applies when it needs no value, or has one;
* `build_isSuited`: compiled criteria are suited;
* **`render_isOk_of_bind`**: no body breaks the rendering of a schema whose columns are safe.
-/

namespace RowFilter

/-! ## One field -/

section Field

variable {spec : FieldSpec} {value : Value} {arity : Arity}

/-- **A field applies** when it needs no value, or has one. -/
theorem isApplicable_iff {f : Field} :
    f.isApplicable = true ↔ f.spec.needed.arity = .none ∨ f.value.isEmpty = false := by
  unfold Field.isApplicable FieldSpec.acceptsEmpty FieldSpec.needed
  cases f.spec.isBlurry <;> simp [Operator.rule, Operator.arity]

theorem ne_null_of_isEmpty (h : value.isEmpty = false) : value ≠ .null := by
  rintro rfl
  cases h

/-- The operand made for the arity of an operator is one that the operator takes. -/
theorem takes_of_operandOf {op : Operator} {operand : Operand}
    (hvalue : op.arity = .none ∨ value.isEmpty = false)
    (h : operandOf spec value op.arity = .ok operand) : op.Takes operand := by
  cases harity : op.arity with
  | none =>
    rw [harity] at h
    obtain rfl := Except.ok.inj h
    exact Operator.takes_none harity
  | one =>
    rw [harity] at h hvalue
    obtain ⟨v, hv, rfl⟩ := Outcome.map_ok_iff.mp h
    obtain ⟨rfl, hlist⟩ := singleOperand_eq_ok_iff.mp hv
    exact .single harity (ne_null_of_isEmpty (hvalue.resolve_left nofun)) hlist
  | two =>
    rw [harity, operandOf] at h
    split at h
    · obtain rfl := Except.ok.inj h
      exact Operator.takes_range harity _ _
    · cases h
  | many =>
    rw [harity, operandOf] at h
    split at h
    · cases h
    · rename_i hempty
      obtain rfl := Except.ok.inj h
      refine Operator.takes_list harity fun hnil => hempty ?_
      simp [hnil]

/-- One value that is made an operand is the value of the field. -/
theorem eq_of_operandOf_single {v : Value} (h : operandOf spec value arity = .ok (.single v)) :
    v = value := by
  cases arity with
  | none => cases h
  | one =>
    obtain ⟨v', hv', heq⟩ := Outcome.map_ok_iff.mp h
    obtain rfl := Operand.single.inj heq
    exact (singleOperand_eq_ok_iff.mp hv').1
  | two =>
    rw [operandOf] at h
    split at h <;> cases h
  | many =>
    rw [operandOf] at h
    split at h <;> cases h

end Field

/-! ## All fields -/

/-- **Compiled criteria** are suited, whatever values the fields hold. -/
theorem build_isSuited {h : Registry.History} {fields : List Field} {p : Predicate}
    (hp : build h.registry fields = .ok p) : p.IsSuited := by
  intro c hc
  obtain ⟨f, -, happlies, -, hgives⟩ := exists_gives_of_build hp hc
  rw [hgives.operator]
  exact takes_of_operandOf (isApplicable_iff.mp happlies) hgives.operand

/-! ## Request bodies -/

theorem isObject_of_ofJson {v j : Json} (h : Value.ofJson v = .json j) : v.isObject = true := by
  cases v with
  | object members => rfl
  | number n =>
    rw [Value.ofJson, Value.ofNumber.eq_def] at h
    split at h
    · split at h <;> cases h
    · cases h
  | _ => cases h

section Bodies

variable {s : Schema} {body : Json} {fields : List Field} {h : Registry.History} {p : Predicate}
  {c : Comparison}

/-- A filter for a body is about columns of the schema. -/
theorem column_mem_of_bind (hfields : s.bind body = .ok fields)
    (hp : build h.registry fields = .ok p) (hc : c ∈ p.comparisons) :
    ∃ spec ∈ s.fields, c.column ∈ spec.columns := by
  obtain ⟨f, hf, -, -, hgives⟩ := exists_gives_of_build hp hc
  have hspec : f.spec ∈ s.fields := (specs_of_bind hfields).subset (List.mem_map_of_mem hf)
  exact ⟨f.spec, hspec, hgives.column⟩

/-- A filter for a body compares nothing with JSON, except among the items of a list. -/
theorem operand_ne_json_of_bind (hfields : s.bind body = .ok fields)
    (hp : build h.registry fields = .ok p) (hc : c ∈ p.comparisons) (j : Json) :
    c.operand ≠ .single (.json j) := by
  intro hj
  obtain ⟨f, hf, -, -, hgives⟩ := exists_gives_of_build hp hc
  obtain ⟨v, hobject, hvalue⟩ := isObject_of_bind hfields hf
  have hv : Value.json j = f.value := eq_of_operandOf_single (hj ▸ hgives.operand)
  exact Bool.false_ne_true (hobject.symm.trans (isObject_of_ofJson (hvalue.symm.trans hv.symm)))

end Bodies

/-- **No body breaks rendering**: where the columns of a schema are safe names, whatever a body
compiles to can be written, in any dialect and from any index on. -/
theorem render_isOk_of_bind {s : Schema}
    (hcolumns : ∀ spec ∈ s.fields, ∀ column ∈ spec.columns, Sql.checkIdentifier column = .ok ())
    {h : Registry.History} {body : Json} {p : Predicate}
    (hp : s.bind body >>= build h.registry = .ok p) (r : Sql.Renderer) :
    ∃ out, r.render p = .ok out := by
  obtain ⟨fields, hfields, hbuild⟩ := Outcome.bind_ok_iff.mp hp
  cases hr : r.render p with
  | ok out => exact ⟨out, rfl⟩
  | error e =>
    obtain ⟨c, hc, hrefused⟩ := Sql.exists_refused_of_render (build_isSuited hbuild) hr
    cases hrefused with
    | column hname =>
      obtain ⟨spec, hspec, hcolumn⟩ := column_mem_of_bind hfields hbuild hc
      have herror := Sql.checkIdentifier_eq_error_iff.mpr ⟨hname, rfl⟩
      exact absurd (herror.symm.trans (hcolumns spec hspec _ hcolumn)) nofun
    | pattern _ hj => exact absurd hj (operand_ne_json_of_bind hfields hbuild hc _)

/-- A search of a column with a name of its own, and a list of numbers. -/
def personSchema : Schema where
  fields :=
    [{ name := "q", operator := .equal, targets := ["nickName"] },
     { name := "ids", operator := .isIn, column := some "u.id" }]

/-- Searches for what is no text, and lists what is no number. -/
def oddBody : Json :=
  .object [("q", .bool true), ("ids", .array [.null, .object [], .array [.string ""]])]

theorem render_isOk_of_oddBody :
    (∀ spec ∈ personSchema.fields, ∀ column ∈ spec.columns,
      Sql.checkIdentifier column = .ok ()) ∧
    ∃ p, personSchema.bind oddBody >>= build (Registry.History.registry {}) = .ok p ∧
      p.comparisons.length = 2 ∧ ∀ r : Sql.Renderer, ∃ out, r.render p = .ok out := by
  have hcolumns : ∀ spec ∈ personSchema.fields, ∀ column ∈ spec.columns,
      Sql.checkIdentifier column = .ok () := by
    intro spec hspec column hcolumn
    have hmem : column ∈ personSchema.fields.flatMap FieldSpec.columns :=
      List.mem_flatMap.mpr ⟨spec, hspec, hcolumn⟩
    rw [show personSchema.fields.flatMap FieldSpec.columns = ["nick_name", "u.id"] from rfl] at hmem
    rcases List.mem_pair.mp hmem with rfl | rfl <;> rfl
  have hp : personSchema.bind oddBody >>= build (Registry.History.registry {}) =
      .ok (.and
        [.or [.comparison ⟨"nick_name", .innerLike, .single (.bool true)⟩],
         .comparison ⟨"u.id", .isIn,
          .list [.null, .json (.object []), .list [.text ""]]⟩]) := by
    rfl
  exact ⟨hcolumns, _, hp, rfl, render_isOk_of_bind hcolumns hp⟩

end RowFilter
