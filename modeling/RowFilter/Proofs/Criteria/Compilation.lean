import RowFilter.Criteria.Compile
import RowFilter.Proofs.Operator.Restriction
import RowFilter.Proofs.Outcome

/-!
# What fields compile to

The registry is asked once for each field, for the operator that the field needs: a fuzzy field
needs a search, whatever operator it declares. What it is answered decides whether the field
compiles at all. `Compiled` lists the two forms of what becomes of it then; later proofs go by them
and do not open the compiler.

Headlines:
* `compile_eq_bind`: a registry counts only by its answer for the operator that is needed;
* `compile_eq_ok_iff`: a compiled field has one of the two forms;
* `Compiled.head_eq`: its comparisons are about the columns of the field, with the operator needed;
* `exists_gives_of_build`: whatever is compared in compiled criteria, a field asks for it;
* **`registry_restricts`**: a registry that was restricted refuses what it lacks, and changes
  nothing about the rest.
-/

namespace RowFilter

/-! ## What a field is about -/

namespace FieldSpec

/-- The operator of every comparison of the field. -/
def needed (spec : FieldSpec) : Operator := if spec.isBlurry then .innerLike else spec.operator

/-- The columns that the field is compared with. -/
def columns (spec : FieldSpec) : List String :=
  if spec.isBlurry then spec.targets.map Text.underscore else [spec.resolvedColumn]

/-- The column and the operator of each comparison of the field. -/
def heads (spec : FieldSpec) : List (String × Operator) := spec.columns.map (·, spec.needed)

end FieldSpec

/-- The column and the operator of a comparison. -/
def Comparison.head (c : Comparison) : String × Operator := (c.column, c.operator)

theorem head_mem_heads_iff {c : Comparison} {spec : FieldSpec} :
    c.head ∈ spec.heads ↔ c.column ∈ spec.columns ∧ c.operator = spec.needed := by
  rw [FieldSpec.heads, List.mem_map]
  constructor
  · rintro ⟨column, hcolumn, heq⟩
    obtain ⟨rfl, hop⟩ := Prod.mk.inj heq
    exact ⟨hcolumn, hop.symm⟩
  · rintro ⟨hcolumn, hop⟩
    exact ⟨c.column, hcolumn, Prod.ext rfl hop.symm⟩

/-! ## One field -/

section Field

variable {registry : Registry} {spec : FieldSpec} {value : Value} {p : Predicate}

theorem singleOperand_eq_ok_iff {v : Value} :
    singleOperand spec value = .ok v ↔ v = value ∧ ∀ items, value ≠ .list items := by
  cases value <;> simp [singleOperand, eq_comm]

/-- What becomes of a field by a rule for the operator that it needs. -/
def FieldSpec.compileBy (spec : FieldSpec) (value : Value) (rule : Rule) : Except Fault Predicate :=
  if spec.isBlurry then
    (singleOperand spec value).map fun v => .or (spec.targets.map (searchOf v))
  else
    (operandOf spec value rule.arity).map fun operand =>
      .comparison ⟨spec.resolvedColumn, spec.operator, operand⟩

/-- **The registry is asked once**, for the operator that the field needs. -/
theorem compile_eq_bind (registry : Registry) (spec : FieldSpec) (value : Value) :
    compile registry spec value = registry.rule spec.needed >>= spec.compileBy value := by
  unfold FieldSpec.needed FieldSpec.compileBy
  by_cases hb : spec.isBlurry = true
  · simp only [if_pos hb, compile, compileBlurry]
    cases registry.rule .innerLike with
    | error e => rfl
    | ok rule => cases singleOperand spec value <;> rfl
  · simp only [if_neg hb, compile, compileComparison]
    cases registry.rule spec.operator with
    | error e => rfl
    | ok rule =>
      show Except.map _ (operandOf spec value rule.arity >>= _) =
        Except.map _ (operandOf spec value rule.arity)
      cases operandOf spec value rule.arity <;> rfl

/-- What becomes of a field whose operator takes an arity. -/
inductive Compiled (spec : FieldSpec) (value : Value) (arity : Arity) : Predicate → Prop where
  | searches (hb : spec.isBlurry = true) (hv : ∀ items, value ≠ .list items) :
      Compiled spec value arity (.or (spec.targets.map (searchOf value)))
  | comparison (hb : spec.isBlurry = false) {operand : Operand}
      (ho : operandOf spec value arity = .ok operand) :
      Compiled spec value arity (.comparison ⟨spec.resolvedColumn, spec.operator, operand⟩)

/-- **A compiled field** has one of the two forms. -/
theorem compile_eq_ok_iff :
    compile registry spec value = .ok p ↔
      ∃ rule, registry.rule spec.needed = .ok rule ∧ Compiled spec value rule.arity p := by
  rw [compile_eq_bind, Outcome.bind_ok_iff]
  refine exists_congr fun rule => and_congr_right fun _ => ?_
  unfold FieldSpec.compileBy
  constructor
  · intro h
    split at h
    · rename_i hb
      obtain ⟨v, hv, rfl⟩ := Outcome.map_ok_iff.mp h
      obtain ⟨rfl, hv⟩ := singleOperand_eq_ok_iff.mp hv
      exact .searches hb hv
    · rename_i hb
      obtain ⟨operand, ho, rfl⟩ := Outcome.map_ok_iff.mp h
      exact .comparison (Bool.not_eq_true _ ▸ hb) ho
  · intro h
    cases h with
    | searches hb hv =>
      rw [if_pos hb, singleOperand_eq_ok_iff.mpr ⟨rfl, hv⟩]
      rfl
    | comparison hb ho =>
      rw [if_neg (by simp [hb]), ho]
      rfl

theorem comparisons_searches (value : Value) (targets : List String) :
    (Predicate.or (targets.map (searchOf value))).comparisons =
      targets.map fun target => ⟨Text.underscore target, .innerLike, .single value⟩ := by
  rw [Predicate.comparisons, Predicate.comparisonsOfAll_eq, List.flatMap_map]
  exact List.map_eq_flatMap.symm

/-- What a compiled field compares is settled by its description. -/
theorem Compiled.head_eq {arity : Arity} (h : Compiled spec value arity p) :
    p.comparisons.map Comparison.head = spec.heads := by
  cases h with
  | searches hb hv =>
    rw [FieldSpec.heads, FieldSpec.columns, FieldSpec.needed, if_pos hb, if_pos hb,
      comparisons_searches, List.map_map, List.map_map]
    rfl
  | comparison hb ho =>
    rw [FieldSpec.heads, FieldSpec.columns, FieldSpec.needed, if_neg (by simp [hb]),
      if_neg (by simp [hb])]
    rfl

/-- The operand of a compiled field is made for the operator that the field needs, also where the
field is fuzzy and never asks for an arity. -/
theorem Compiled.operandOf_eq (h : Compiled spec value spec.needed.arity p) {c : Comparison}
    (hc : c ∈ p.comparisons) : operandOf spec value spec.needed.arity = .ok c.operand := by
  cases h with
  | searches hb hlist =>
    rw [comparisons_searches] at hc
    obtain ⟨target, -, rfl⟩ := List.mem_map.mp hc
    rw [FieldSpec.needed, if_pos hb]
    exact congrArg (Except.map Operand.single) (singleOperand_eq_ok_iff.mpr ⟨rfl, hlist⟩)
  | comparison hb ho =>
    rw [Predicate.comparisons, List.mem_singleton] at hc
    exact hc ▸ ho

end Field

/-! ## All fields -/

section Fields

variable {registry : Registry} {fields : List Field} {p : Predicate}

/-- **Compiled criteria** are the conjunction of the applicable fields, one member each. -/
theorem build_eq_ok_iff :
    build registry fields = .ok p ↔ ∃ children, p = .and children ∧
      List.Forall₂ (fun f child => f.compile registry = .ok child)
        (applicable fields) children := by
  rw [build, Outcome.map_ok_iff]
  refine exists_congr fun children => ?_
  rw [Outcome.mapM_eq_ok_iff, and_comm, eq_comm]

/-- Every comparison of compiled criteria comes from a field that applies. -/
theorem exists_field_of_build (h : build registry fields = .ok p) {c : Comparison}
    (hc : c ∈ p.comparisons) :
    ∃ f ∈ fields, f.isApplicable = true ∧
      ∃ child, f.compile registry = .ok child ∧ c ∈ child.comparisons := by
  obtain ⟨children, rfl, hall⟩ := build_eq_ok_iff.mp h
  rw [Predicate.comparisons, Predicate.comparisonsOfAll_eq, List.mem_flatMap] at hc
  obtain ⟨child, hchild, hc⟩ := hc
  obtain ⟨f, hf, hcompile⟩ := Outcome.exists_of_forall₂_right hall hchild
  obtain ⟨hf, happlies⟩ := mem_applicable.mp hf
  exact ⟨f, hf, happlies, child, hcompile, hc⟩

end Fields

/-! ## Restricted registries -/

/-- The comparison is one that a field asks for. -/
structure Field.Gives (f : Field) (c : Comparison) : Prop where
  column : c.column ∈ f.spec.columns
  operator : c.operator = f.spec.needed
  operand : operandOf f.spec f.value f.spec.needed.arity = .ok c.operand

/-- **Where a comparison comes from**: a field that applies gives it, and the registry has a rule
for its operator. -/
theorem exists_gives_of_build {h : Registry.History} {fields : List Field} {p : Predicate}
    (hp : build h.registry fields = .ok p) {c : Comparison} (hc : c ∈ p.comparisons) :
    ∃ f ∈ fields, f.isApplicable = true ∧ h.registry.contains c.operator = true ∧ f.Gives c := by
  obtain ⟨f, hf, happlies, child, hcompile, hc⟩ := exists_field_of_build hp hc
  obtain ⟨rule, hrule, hcompiled⟩ := compile_eq_ok_iff.mp hcompile
  obtain ⟨hcontains, rfl⟩ := Registry.History.rule_registry_eq_ok_iff.mp hrule
  have hhead : c.head ∈ f.spec.heads := hcompiled.head_eq ▸ List.mem_map_of_mem hc
  obtain ⟨hcolumn, hop⟩ := head_mem_heads_iff.mp hhead
  exact ⟨f, hf, happlies, hop ▸ hcontains, hcolumn, hop, hcompiled.operandOf_eq hc⟩

theorem contains_standard (op : Operator) : Registry.standard.contains op = true := by
  cases op <;> rfl

/-- **A restricted registry only removes**: it holds the operators given and not removed, with their
standard rules; a field whose operator it holds compiles as it always does, any other is refused,
and no comparison with an operator that it lacks ever comes about. -/
theorem registry_restricts (h : Registry.History) :
    h.registry.rules = h.operators.map Operator.rule ∧
    (∀ (spec : FieldSpec) (value : Value), compile h.registry spec value =
      if h.registry.contains spec.needed then compile .standard spec value
      else .error (.unsupportedOperator spec.needed.name)) ∧
    ∀ (fields : List Field) (p : Predicate), build h.registry fields = .ok p →
      ∀ c ∈ p.comparisons, h.registry.contains c.operator = true := by
  refine ⟨h.rules_registry, fun spec value => ?_, fun fields p hp c hc => ?_⟩
  · have hstandard : Registry.standard.rule spec.needed = .ok spec.needed.rule := by
      rw [show Registry.standard = Registry.History.registry {} from rfl,
        Registry.History.rule_registry]
      exact if_pos (contains_standard _)
    rw [compile_eq_bind, compile_eq_bind, h.rule_registry, hstandard]
    cases h.registry.contains spec.needed <;> rfl
  · obtain ⟨f, -, -, hcontains, -⟩ := exists_gives_of_build hp hc
    exact hcontains

/-- A search was allowed and then taken out again. -/
def searchRemoved : Registry.History where
  restriction := some [.equal, .innerLike, .between, .equal]
  removed := [.innerLike]

/-- A fuzzy field over one column. -/
def searchSpec : FieldSpec := { name := "q", operator := .equal, targets := ["name"] }

/-- Asks for the rows with a status. -/
def statusField : Field :=
  ⟨{ name := "status", operator := .equal, column := some "status" }, .int 1⟩

/-- The search is refused although the field declares an operator that is left. -/
theorem registry_restricts_search :
    searchRemoved.registry.rules = [Operator.equal.rule, Operator.between.rule] ∧
    compile searchRemoved.registry searchSpec (.text "a") =
      .error (.unsupportedOperator "INNER_LIKE") ∧
    ∃ p, build searchRemoved.registry [statusField] = .ok p ∧
      ∀ c ∈ p.comparisons, searchRemoved.registry.contains c.operator = true := by
  obtain ⟨hrules, hcompile, hbuild⟩ := registry_restricts searchRemoved
  have hp : build searchRemoved.registry [statusField] =
      .ok (.and [.comparison (.equal "status" (.int 1))]) := by rfl
  exact ⟨hrules.trans (by rfl), (hcompile searchSpec (.text "a")).trans (by rfl), _, hp,
    hbuild _ _ hp⟩

end RowFilter
