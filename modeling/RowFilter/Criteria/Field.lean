import RowFilter.Operator
import RowFilter.Text.Words
import RowFilter.Value

/-!
# Criteria fields

A field of a request is described by a `FieldSpec`: its name, the operator it is compared with, and
optionally a column other than the one its name gives, or several columns to search for the value.
Paired with the value it holds it is a `Field`, which applies when the value is given, or when the
operator asks for none.

Headline: `mem_applicable`: what takes part in a filter is given in the request and applies.
-/

namespace RowFilter

/-- The description of one field. -/
structure FieldSpec where
  name : String
  operator : Operator
  /-- The column to compare, where it is not the one the name gives. -/
  column : Option String := none
  /-- The names of the columns to search, for a fuzzy field. -/
  targets : List String := []
  deriving DecidableEq

namespace FieldSpec

/-- The description with a column of its own (`FieldSpec::column`). -/
def withColumn (spec : FieldSpec) (column : String) : FieldSpec :=
  { spec with column := some column }

/-- A list with one more entry at its end, unless it is there already. -/
def addTarget (targets : List String) (target : String) : List String :=
  if targets.contains target then targets else targets ++ [target]

/-- The description with more columns to search (`FieldSpec::blurry`). -/
def blurry (spec : FieldSpec) (targets : List String) : FieldSpec :=
  { spec with targets := targets.foldl addTarget spec.targets }

/-- The field searches several columns. -/
def isBlurry (spec : FieldSpec) : Bool := !spec.targets.isEmpty

/-- The column that the field is compared with (`FieldSpec::resolved_column`). -/
def resolvedColumn (spec : FieldSpec) : String :=
  spec.column.getD (Text.underscore spec.name)

/-- The field applies even when its value is empty (`FieldSpec::accepts_empty`): a null test, unless
it is fuzzy. -/
def acceptsEmpty (spec : FieldSpec) : Bool :=
  !spec.isBlurry && spec.operator.rule.acceptsEmpty

end FieldSpec

/-- A described field with the value it holds (`CriteriaField`). -/
structure Field where
  spec : FieldSpec
  value : Value
  deriving DecidableEq

/-- The field takes part in the filter (`CriteriaField::is_applicable`). -/
def Field.isApplicable (f : Field) : Bool := f.spec.acceptsEmpty || !f.value.isEmpty

/-- The fields that take part in the filter, in order (`reflect`). -/
def applicable (fields : List Field) : List Field := fields.filter Field.isApplicable

variable {fields : List Field}

/-- What takes part in the filter is given in the request and applies. -/
theorem mem_applicable {f : Field} : f ∈ applicable fields ↔ f ∈ fields ∧ f.isApplicable = true :=
  List.mem_filter

/-- Nothing takes part in the filter if no field applies. -/
theorem applicable_eq_nil_iff : applicable fields = [] ↔ ∀ f ∈ fields, f.isApplicable = false := by
  simp only [List.eq_nil_iff_forall_not_mem, mem_applicable, not_and, Bool.not_eq_true]

end RowFilter
