import RowFilter.Criteria.Field
import RowFilter.Operator.Registry
import RowFilter.Predicate

/-!
# Compiling criteria

A field with a value becomes a comparison, or for a fuzzy field a disjunction of searches that is
never flattened. The operand is checked against the arity of the operator before anything is built,
so a field that fails leaves nothing behind. `build` conjoins what the applicable fields become,
and `assemble` conjoins that with the rows a caller may see.

Headline: `assemble_cases`: assembling gives one side, nothing at all, or both sides in order.
-/

namespace RowFilter

/-! ## One field -/

/-- The value of an operator that takes one (`single_operand`): anything but a list. -/
def singleOperand (spec : FieldSpec) : Value → Except Fault Value
  | .list _ => .error (.invalidParameter spec.name
      s!"{spec.operator.name} expects a single value, found a list")
  | v => .ok v

/-- The operand of an arity that a value makes. -/
def operandOf (spec : FieldSpec) (value : Value) : Arity → Except Fault Operand
  | .none => .ok .none
  | .one => (singleOperand spec value).map .single
  | .two =>
    match value.slice with
    | [low, high] => .ok (.range low high)
    | _ => .error (.invalidRange spec.name)
  | .many =>
    if value.isNull || value.slice.isEmpty then .error (.emptyCollection spec.name)
    else .ok (.list value.slice)

/-- The comparison of a field that is not fuzzy (`PredicateCompiler::compile_comparison`). -/
def compileComparison (registry : Registry) (spec : FieldSpec) (value : Value) :
    Except Fault Comparison := do
  let rule ← registry.rule spec.operator
  let operand ← operandOf spec value rule.arity
  return ⟨spec.resolvedColumn, spec.operator, operand⟩

/-- The search of one target of a fuzzy field. -/
def searchOf (value : Value) (target : String) : Predicate :=
  .comparison ⟨Text.underscore target, .innerLike, .single value⟩

/-- The searches of a fuzzy field (`PredicateCompiler::compile_blurry`). -/
def compileBlurry (registry : Registry) (spec : FieldSpec) (value : Value) :
    Except Fault Predicate := do
  let _ ← registry.rule .innerLike
  let value ← singleOperand spec value
  return .or (spec.targets.map (searchOf value))

/-- What a field becomes under a registry (`PredicateCompiler::compile`). -/
def compile (registry : Registry) (spec : FieldSpec) (value : Value) : Except Fault Predicate :=
  if spec.isBlurry then compileBlurry registry spec value
  else (compileComparison registry spec value).map .comparison

/-- What a field with its value becomes (`PredicateCompiler::compile_field`). -/
def Field.compile (registry : Registry) (f : Field) : Except Fault Predicate :=
  RowFilter.compile registry f.spec f.value

/-! ## All fields -/

/-- The conjunction of what the applicable fields become (`QueryAssembler::build`); the first that
fails decides. -/
def build (registry : Registry) (fields : List Field) : Except Fault Predicate :=
  ((applicable fields).mapM (Field.compile registry)).map .and

/-- The conjunction of what a caller asks for with what the caller may see (`assemble`). A side that
always holds is dropped, a side that never holds is all there is, and neither side is taken
apart. -/
def assemble (asked allowed : Predicate) : Predicate :=
  if allowed.isAlwaysTrue then asked
  else if asked.isAlwaysTrue then allowed
  else if asked.isAlwaysFalse || allowed.isAlwaysFalse then .never
  else .and [asked, allowed]

/-- Assembling gives one side, nothing at all, or both sides in order. -/
theorem assemble_cases (asked allowed : Predicate) :
    assemble asked allowed = asked ∨ assemble asked allowed = allowed ∨
      assemble asked allowed = .never ∨ assemble asked allowed = .and [asked, allowed] := by
  unfold assemble
  split
  · exact .inl rfl
  · split
    · exact .inr (.inl rfl)
    · split
      · exact .inr (.inr (.inl rfl))
      · exact .inr (.inr (.inr rfl))

end RowFilter
