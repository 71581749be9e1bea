import RowFilter.Criteria.Schema
import RowFilter.Proofs.Criteria.Compilation

/-!
# What a request body decides

A body bound to a schema gives the fields of the schema their values. It decides which of them
apply and what they are compared with; the columns and the operators of the filter, and their
order, are those of the schema.

Headlines:
* `bind_eq_ok_iff`: a bound body gives one field for each description, or none at all;
* `isObject_of_bind`: no field holds an object;
* **`schema_shapes_filter`**: the filter of a body is about the descriptions that apply, whole and
  in their order, and members that the schema does not name change nothing.
-/

namespace RowFilter

open Schema

section Binding

variable {s : Schema} {body : Json} {fields : List Field}

theorem bindField_eq_ok_iff {members : List (String × Json)} {spec : FieldSpec} {f : Field} :
    bindField members spec = .ok f ↔
      ((Json.lookup spec.name members).getD .null).isObject = false ∧
        f = ⟨spec, .ofJson ((Json.lookup spec.name members).getD .null)⟩ := by
  unfold bindField
  generalize (Json.lookup spec.name members).getD .null = v
  cases hv : v.isObject with
  | true => simp [hv]
  | false => simp only [hv, Bool.false_eq_true, if_false, Except.ok.injEq, true_and, eq_comm]

/-- **A bound body** gives one field for each description; a body that is null gives none. -/
theorem bind_eq_ok_iff :
    s.bind body = .ok fields ↔ body = .null ∧ fields = [] ∨ ∃ members, body = .object members ∧
      List.Forall₂ (fun spec f => bindField members spec = .ok f) s.fields fields := by
  cases body with
  | null => simp [Schema.bind, eq_comm]
  | object members => simp [Schema.bind, Outcome.mapM_eq_ok_iff]
  | _ => simp [Schema.bind]

theorem specs_of_members {members : List (String × Json)} {specs : List FieldSpec}
    (h : List.Forall₂ (fun spec f => bindField members spec = .ok f) specs fields) :
    fields.map Field.spec = specs := by
  induction h with
  | nil => rfl
  | cons hf _ ih => rw [List.map_cons, ih, (bindField_eq_ok_iff.mp hf).2]

/-- Bodies that agree on the names of the schema give the same fields. -/
theorem Schema.bind_congr {ms ns : List (String × Json)}
    (h : ∀ spec ∈ s.fields, (Json.lookup spec.name ms).getD .null =
      (Json.lookup spec.name ns).getD .null) :
    s.bind (.object ms) = s.bind (.object ns) := by
  refine Outcome.mapM_congr_of_forall₂ (List.forall₂_same.mpr fun spec hspec => ?_)
  rw [bindField, bindField, h spec hspec]

/-- The fields are described as in the schema. -/
theorem specs_of_bind (h : s.bind body = .ok fields) :
    (fields.map Field.spec).Sublist s.fields := by
  rcases bind_eq_ok_iff.mp h with ⟨-, rfl⟩ | ⟨members, -, hall⟩
  · exact List.nil_sublist _
  · rw [specs_of_members hall]

/-- So are those of them that apply. -/
theorem specs_applicable_of_bind (h : s.bind body = .ok fields) :
    ((applicable fields).map Field.spec).Sublist s.fields :=
  (List.filter_sublist.map Field.spec).trans (specs_of_bind h)

/-- **No field holds an object**, though a list that it holds may. -/
theorem isObject_of_bind (h : s.bind body = .ok fields) {f : Field} (hf : f ∈ fields) :
    ∃ v : Json, v.isObject = false ∧ f.value = .ofJson v := by
  rcases bind_eq_ok_iff.mp h with ⟨-, rfl⟩ | ⟨members, -, hall⟩
  · exact absurd hf List.not_mem_nil
  · obtain ⟨spec, -, hbind⟩ := Outcome.exists_of_forall₂_right hall hf
    obtain ⟨hobject, rfl⟩ := bindField_eq_ok_iff.mp hbind
    exact ⟨_, hobject, rfl⟩

end Binding

/-! ## The shape of a filter -/

/-- The members of compiled criteria are about the fields that apply, one after another. -/
theorem heads_of_members {registry : Registry} {fields : List Field} {children : List Predicate}
    (h : List.Forall₂ (fun f child => f.compile registry = .ok child) fields children) :
    List.Forall₂ (fun f child => child.comparisons.map Comparison.head = f.spec.heads)
      fields children := by
  refine Outcome.forall₂_imp_of_mem (fun f _ child hf => ?_) h
  obtain ⟨rule, -, hcompiled⟩ := compile_eq_ok_iff.mp hf
  exact hcompiled.head_eq

theorem heads_of_and {fields : List Field} {children : List Predicate}
    (h : List.Forall₂ (fun f child => child.comparisons.map Comparison.head = f.spec.heads)
      fields children) :
    (Predicate.and children).comparisons.map Comparison.head =
      (fields.map Field.spec).flatMap FieldSpec.heads := by
  rw [Predicate.comparisons]
  induction h with
  | nil => rfl
  | cons hf _ ih =>
    rw [Predicate.comparisonsOfAll, List.map_append, hf, ih, List.map_cons, List.flatMap_cons]

/-- The predicate is the filter that a schema gives for some fields. -/
structure Schema.Shapes (s : Schema) (fields : List Field) (p : Predicate) : Prop where
  /-- It has one member for each field, about the columns of the field. -/
  members : ∃ children, p = .and children ∧
    List.Forall₂ (fun f child => child.comparisons.map Comparison.head = f.spec.heads)
      fields children
  /-- The fields are described in the schema, in this order. -/
  kept : (fields.map Field.spec).Sublist s.fields
  /-- Its comparisons are about what the descriptions say, one description after another. -/
  heads : p.comparisons.map Comparison.head = (fields.map Field.spec).flatMap FieldSpec.heads

theorem shapes_of_bind {s : Schema} {registry : Registry} {body : Json} {fields : List Field}
    {p : Predicate} (hfields : s.bind body = .ok fields) (hp : build registry fields = .ok p) :
    s.Shapes (applicable fields) p := by
  obtain ⟨children, rfl, hall⟩ := build_eq_ok_iff.mp hp
  have hheads := heads_of_members hall
  exact ⟨⟨children, rfl, hheads⟩, specs_applicable_of_bind hfields, heads_of_and hheads⟩

/-- **The schema decides the shape of a filter**: it is the conjunction of one member for each field
that applies, whose comparisons are about the columns and the operators of whole descriptions of the
schema, in their order. A body has a say only through the names of the schema. -/
theorem schema_shapes_filter (s : Schema) (registry : Registry) :
    (∀ (body : Json) (p : Predicate), s.bind body >>= build registry = .ok p →
      ∃ fields, s.bind body = .ok fields ∧ s.Shapes (applicable fields) p) ∧
    ∀ ms ns : List (String × Json),
      (∀ spec ∈ s.fields, (Json.lookup spec.name ms).getD .null =
        (Json.lookup spec.name ns).getD .null) →
      s.bind (.object ms) >>= build registry = s.bind (.object ns) >>= build registry := by
  constructor
  · intro body p hp
    obtain ⟨fields, hfields, hbuild⟩ := Outcome.bind_ok_iff.mp hp
    exact ⟨fields, hfields, shapes_of_bind hfields hbuild⟩
  · intro ms ns hagree
    rw [Schema.bind_congr hagree]

/-- A search over two columns, a status that is asked for twice, and a null test. -/
def listSchema : Schema where
  fields :=
    [{ name := "q", operator := .equal, targets := ["name", "email"] },
     { name := "status", operator := .equal, column := some "status" },
     { name := "status", operator := .notEqual, column := some "previous_status" },
     { name := "deleted", operator := .isNull, column := some "deleted_at" }]

/-- Asks for a status. -/
def statusBody : List (String × Json) := [("status", .string "open")]

/-- Asks for a status among much else. -/
def crowdedBody : List (String × Json) :=
  [("deleted", .null), ("owner", .object []), ("status", .string "open"),
   ("status = 1 OR", .bool true)]

theorem schema_shapes_filter_of_status :
    ∃ p, listSchema.bind (.object statusBody) >>= build .standard = .ok p ∧
      (∃ fields, listSchema.bind (.object statusBody) = .ok fields ∧
        listSchema.Shapes (applicable fields) p) ∧
      p.comparisons.map Comparison.head =
        [("status", .equal), ("previous_status", .notEqual), ("deleted_at", .isNull)] ∧
      listSchema.bind (.object statusBody) >>= build .standard =
        listSchema.bind (.object crowdedBody) >>= build .standard := by
  obtain ⟨hshape, hagree⟩ := schema_shapes_filter listSchema .standard
  have hp : listSchema.bind (.object statusBody) >>= build .standard = .ok (.and
      [.comparison ⟨"status", .equal, .single (.text "open")⟩,
       .comparison ⟨"previous_status", .notEqual, .single (.text "open")⟩,
       .comparison ⟨"deleted_at", .isNull, .none⟩]) := by
    rfl
  exact ⟨_, hp, hshape _ _ hp, by rfl, hagree statusBody crowdedBody (by decide)⟩

end RowFilter
