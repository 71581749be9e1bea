import Mathlib.Data.List.Permutation
import RowFilter.Predicate.JsonForm
import RowFilter.Proofs.Outcome
import RowFilter.Proofs.Predicate.Suitability
import RowFilter.Proofs.Predicate.Truth

/-!
# Stored predicates read back

A stored value does not say of which kind it is, so reading it back may give another one: a list
becomes JSON, JSON that is a text becomes a text, and a number that is not finite becomes null.
`IsStorable` lists the values of which this is not so. Everything else about a predicate, at any
depth, is read back as it was, in whichever order the members of its comparisons stand.

Headlines:
* `Value.restored_eq_iff`: the storable values are exactly those that are read back as they were;
* `ofJson_of_hasForm`: what is read of a stored predicate is the predicate with its values restored;
* **`ofJson_toJson_eq_ok_iff`**: so a predicate is read back as it was exactly when all its values
  are storable.
-/

namespace RowFilter

/-! ## Values -/

namespace Value

/-- The value keeps its kind when it is stored. -/
inductive IsStorable : Value → Prop where
  | null : IsStorable .null
  | bool (b : Bool) : IsStorable (.bool b)
  | int (n : Int64) : IsStorable (.int n)
  | float {x : Binary64} (hx : x.isFinite = true) : IsStorable (.float x)
  | text (s : String) : IsStorable (.text s)
  | array (items : List Json) : IsStorable (.json (.array items))
  | object (members : List (String × Json)) : IsStorable (.json (.object members))

/-- What is read of the value when it has been stored. -/
def restored (v : Value) : Value := ofStored v.toJson

theorem restored_int (n : Int64) : (int n).restored = int n := by
  have hlt : n.toInt < 0x8000000000000000 := n.toInt_lt
  rw [restored, toJson, Json.ofInt64, ofStored, ofNumber, if_pos hlt, Int64.ofInt_toInt]

theorem restored_float (x : Binary64) :
    (float x).restored = if x.isFinite then float x else null := by
  rw [restored, toJson, Json.ofBinary64]
  by_cases hx : x.isFinite = true
  · rw [dif_pos hx, if_pos hx, ofStored, ofNumber]
  · rw [dif_neg hx, if_neg hx, ofStored]

/-- **The storable values** are exactly those that are read back as they were. -/
theorem restored_eq_iff (v : Value) : v.restored = v ↔ v.IsStorable := by
  constructor
  · intro h
    cases v with
    | null => exact .null
    | bool b => exact .bool b
    | int n => exact .int n
    | float x =>
      rw [restored_float] at h
      by_cases hx : x.isFinite = true
      · exact .float hx
      · rw [if_neg hx] at h
        cases h
    | text s => exact .text s
    | json j =>
      cases j with
      | array items => exact .array items
      | object members => exact .object members
      | number n => exact absurd h (ofNumber_ne_json n _)
      | _ => cases h
    | list items => cases h
  · intro h
    cases h with
    | int n => exact restored_int n
    | float hx => rw [restored_float, if_pos hx]
    | _ => rfl

end Value

/-! ## Operands -/

namespace Operand

/-- The operand with its values restored. -/
def restored : Operand → Operand
  | none => none
  | single v => single v.restored
  | range low high => range low.restored high.restored
  | list items => list (items.map Value.restored)

theorem map_restored_eq_iff (items : List Value) :
    items.map Value.restored = items ↔ ∀ v ∈ items, v.IsStorable := by
  induction items with
  | nil => simp
  | cons v vs ih => rw [List.map_cons, List.cons.injEq, Value.restored_eq_iff, ih,
      List.forall_mem_cons]

theorem restored_eq_iff (o : Operand) : o.restored = o ↔ ∀ v ∈ o.values, v.IsStorable := by
  cases o with
  | none => simp [restored, values]
  | single v => simp [restored, values, Value.restored_eq_iff]
  | range low high => simp [restored, values, Value.restored_eq_iff]
  | list items => rw [restored, list.injEq, map_restored_eq_iff, values]

theorem ofJson_toJson (o : Operand) : Operand.ofJson o.toJson = .ok o.restored := by
  cases o with
  | none => rfl
  | single v => rfl
  | range low high => rfl
  | list items =>
    have hitems :
        (items.map Value.toJson).mapM (fun v => (.ok (.ofStored v) : Json.Reading Value)) =
          .ok (items.map Value.restored) := by
      rw [Outcome.mapM_eq_ok_iff, List.forall₂_map_left_iff, List.forall₂_map_right_iff,
        List.forall₂_same]
      exact fun _ _ => rfl
    show (Json.readList _ (.array (items.map Value.toJson)) >>= _) = _
    rw [Json.readList, hitems]
    rfl

end Operand

/-! ## Comparisons -/

theorem Operator.ofJson_name (op : Operator) : Operator.ofJson (.string op.name) = .ok op := by
  cases op <;> rfl

namespace Comparison

/-- The comparison with its values restored. -/
def restored (c : Comparison) : Comparison := { c with operand := c.operand.restored }

/-- The members of the JSON form of a comparison. -/
def members (c : Comparison) : List (String × Json) :=
  [("column", .string c.column), ("operator", .string c.operator.name),
    ("operand", c.operand.toJson)]

section Reading

variable (parts : Parts) (c : Comparison)

theorem member_column :
    outline.member Parts.set parts ("column", .string c.column) =
      .ok { parts with column := some c.column } := by
  rfl

theorem member_operator :
    outline.member Parts.set parts ("operator", .string c.operator.name) =
      .ok { parts with operator := some c.operator } := by
  show (Operator.ofJson (.string c.operator.name) >>= _) = _
  rw [Operator.ofJson_name]
  rfl

theorem member_operand :
    outline.member Parts.set parts ("operand", c.operand.toJson) =
      .ok { parts with operand := some c.operand.restored } := by
  show (Operand.ofJson c.operand.toJson >>= _) = _
  rw [Operand.ofJson_toJson]
  rfl

end Reading

/-- **A comparison** is read in whichever order its members stand. -/
theorem ofJson_of_perm {c : Comparison} {members : List (String × Json)}
    (h : members.Perm c.members) : Comparison.ofJson (.object members) = .ok c.restored := by
  have hread : members.foldlM (outline.member Parts.set) {} =
      .ok ⟨some c.column, some c.operator, some c.operand.restored⟩ := by
    rw [Comparison.members, ← List.mem_permutations'] at h
    simp only [List.permutations', List.permutations'Aux, List.flatMap_cons, List.flatMap_nil,
      List.map_cons, List.map_nil, List.append_nil, List.cons_append, List.nil_append,
      List.mem_cons, List.not_mem_nil, or_false] at h
    rcases h with rfl | rfl | rfl | rfl | rfl | rfl <;>
      simp [member_column, member_operator, member_operand, bind, Except.bind, pure, Except.pure]
  rw [Comparison.ofJson, Json.Outline.read, hread]
  rfl

end Comparison

/-! ## Predicates -/

namespace Predicate

mutual

/-- The predicate with its values restored. -/
def restored : Predicate → Predicate
  | comparison c => comparison c.restored
  | and ps => and (restoredItems ps)
  | or ps => or (restoredItems ps)
  | not p => not p.restored

/-- Predicates with their values restored. -/
def restoredItems : List Predicate → List Predicate
  | [] => []
  | p :: ps => p.restored :: restoredItems ps

end

mutual

/-- The value is a JSON form of the predicate: the members of its comparisons may stand in any
order. -/
def HasForm : Predicate → Json → Prop
  | comparison c, v => ∃ members : List (String × Json), members.Perm c.members ∧
      v = .object [("comparison", .object members)]
  | and ps, v => ∃ items, HasForms ps items ∧ v = .object [("and", .array items)]
  | or ps, v => ∃ items, HasForms ps items ∧ v = .object [("or", .array items)]
  | not p, v => ∃ inner, p.HasForm inner ∧ v = .object [("not", inner)]

/-- The values are JSON forms of the predicates, one after another. -/
def HasForms : List Predicate → List Json → Prop
  | [], vs => vs = []
  | p :: ps, vs => ∃ first rest, p.HasForm first ∧ HasForms ps rest ∧ vs = first :: rest

end

section Members

variable (ps : List Predicate)

theorem restoredItems_eq : restoredItems ps = ps.map restored := by
  induction ps <;> simp_all [restoredItems]

theorem toJsonItems_eq : toJsonItems ps = ps.map toJson := by
  induction ps <;> simp_all [toJsonItems]

theorem ofJsonItems_eq (vs : List Json) : ofJsonItems vs = vs.mapM ofJson := by
  induction vs with
  | nil => rfl
  | cons v vs ih => rw [ofJsonItems, List.mapM_cons, ih]

theorem hasForms_iff {vs : List Json} : HasForms ps vs ↔ List.Forall₂ HasForm ps vs := by
  induction ps generalizing vs with
  | nil => rw [HasForms, List.forall₂_nil_left_iff]
  | cons p ps ih => simp only [HasForms, ih, List.forall₂_cons_left_iff]

end Members

theorem hasForm_toJson (p : Predicate) : p.HasForm p.toJson := by
  have members : ∀ {ps : List Predicate}, (∀ p ∈ ps, p.HasForm p.toJson) →
      HasForms ps (toJsonItems ps) := by
    intro ps ih
    rw [hasForms_iff, toJsonItems_eq, List.forall₂_map_right_iff, List.forall₂_same]
    exact ih
  induction p using induct with
  | comparison c => exact ⟨c.members, .refl _, rfl⟩
  | and ps ih => exact ⟨_, members ih, rfl⟩
  | or ps ih => exact ⟨_, members ih, rfl⟩
  | not p ih => exact ⟨_, ih, rfl⟩

/-- **What is read of a stored predicate** is the predicate with its values restored. -/
theorem ofJson_of_hasForm {p : Predicate} {v : Json} (h : p.HasForm v) :
    ofJson v = .ok p.restored := by
  have members : ∀ {ps : List Predicate} {vs : List Json},
      (∀ p ∈ ps, ∀ {v : Json}, p.HasForm v → ofJson v = .ok p.restored) → HasForms ps vs →
      ofJsonItems vs = .ok (restoredItems ps) := by
    intro ps vs ih hforms
    rw [ofJsonItems_eq, restoredItems_eq, Outcome.mapM_eq_ok_iff, List.forall₂_map_right_iff]
    exact (Outcome.forall₂_imp_of_mem ih ((hasForms_iff ps).mp hforms)).flip
  induction p using induct generalizing v with
  | comparison c =>
    obtain ⟨ms, hms, rfl⟩ := h
    rw [ofJson, Comparison.ofJson_of_perm hms]
    rfl
  | and ps ih =>
    obtain ⟨items, hitems, rfl⟩ := h
    rw [ofJson, members ih hitems]
    rfl
  | or ps ih =>
    obtain ⟨items, hitems, rfl⟩ := h
    rw [ofJson, members ih hitems]
    rfl
  | not p ih =>
    obtain ⟨inner, hinner, rfl⟩ := h
    rw [ofJson, ih hinner]
    rfl

/-- All the values of the predicate are storable. -/
def IsStorable (p : Predicate) : Prop :=
  ∀ c ∈ p.comparisons, ∀ v ∈ c.operand.values, v.IsStorable

theorem isStorable_comparison {c : Comparison} :
    (comparison c).IsStorable ↔ ∀ v ∈ c.operand.values, v.IsStorable := by
  rw [IsStorable, comparisons, List.forall_mem_singleton]

theorem isStorable_and {ps : List Predicate} :
    (and ps).IsStorable ↔ ∀ p ∈ ps, p.IsStorable := by
  simp only [IsStorable, mem_comparisons_and, forall_exists_index, and_imp]
  exact ⟨fun h p hp c hc => h c p hp hc, fun h c p hp hc => h p hp c hc⟩

theorem isStorable_or {ps : List Predicate} :
    (or ps).IsStorable ↔ ∀ p ∈ ps, p.IsStorable := by
  simp only [IsStorable, mem_comparisons_or, forall_exists_index, and_imp]
  exact ⟨fun h p hp c hc => h c p hp hc, fun h c p hp hc => h p hp c hc⟩

/-- A predicate is its own restoration exactly when its values are storable. -/
theorem restored_eq_iff (p : Predicate) : p.restored = p ↔ p.IsStorable := by
  have members : ∀ {ps : List Predicate}, (∀ p ∈ ps, (p.restored = p ↔ p.IsStorable)) →
      (restoredItems ps = ps ↔ ∀ p ∈ ps, p.IsStorable) := by
    intro ps ih
    induction ps with
    | nil => simp [restoredItems]
    | cons p ps ihs =>
      rw [List.forall_mem_cons] at ih
      rw [restoredItems, List.cons.injEq, ih.1, ihs ih.2, List.forall_mem_cons]
  induction p using induct with
  | comparison c =>
    rw [restored, comparison.injEq, isStorable_comparison, ← Operand.restored_eq_iff]
    exact ⟨congrArg Comparison.operand, fun h => by rw [Comparison.restored, h]⟩
  | and ps ih => rw [restored, and.injEq, members ih, isStorable_and]
  | or ps ih => rw [restored, or.injEq, members ih, isStorable_or]
  | not p ih =>
    have hp : p.restored = p ↔ p.IsStorable := ih
    rw [restored, not.injEq, hp, IsStorable, IsStorable, comparisons]

/-- **Stored predicates read back**: reading what was written gives the same predicate, with the
same operators, operands and values at every depth, exactly when every value is null, a truth value,
a whole number, a finite number, a text, or JSON that is an array or an object. Every other form of
the predicate reads the same. -/
theorem ofJson_toJson_eq_ok_iff (p : Predicate) :
    (ofJson p.toJson = .ok p ↔ ∀ c ∈ p.comparisons, ∀ v ∈ c.operand.values, v.IsStorable) ∧
    ∀ v, p.HasForm v → ofJson v = ofJson p.toJson := by
  rw [ofJson_of_hasForm p.hasForm_toJson]
  refine ⟨?_, fun v hv => ofJson_of_hasForm hv⟩
  rw [Except.ok.injEq]
  exact p.restored_eq_iff

/-- Rows whose age is not between the bounds, or that have other tags and one of the codes, or whose
city is not known. -/
def oddFilter : Predicate :=
  or
    [not (comparison ⟨"age", .between, .range (.int (-1)) (.float (Binary64.zero.withSign true))⟩),
     and
      [comparison ⟨"tags", .notEqual, .single (.json (.array [.null, .string "a"]))⟩,
       comparison ⟨"code", .isIn, .list [.int 1, .text "1", .bool true, .null]⟩],
     comparison ⟨"city", .isNull, .none⟩]

/-- A form of the predicate, the members of each comparison by ascending names. -/
def oddJson : Json :=
  .object [("or", .array
    [.object [("not", .object [("comparison", .object
      [("column", .string "age"),
       ("operand", .object [("range", .array
         [.ofInt64 (-1), .ofBinary64 (Binary64.zero.withSign true)])]),
       ("operator", .string "BETWEEN")])])],
     .object [("and", .array
      [.object [("comparison", .object
        [("column", .string "tags"),
         ("operand", .object [("single", .array [.null, .string "a"])]),
         ("operator", .string "NOT_EQUAL")])],
       .object [("comparison", .object
        [("column", .string "code"),
         ("operand", .object [("list", .array [.ofInt64 1, .string "1", .bool true, .null])]),
         ("operator", .string "IN")])]])],
     .object [("comparison", .object
      [("column", .string "city"), ("operand", .string "none"),
       ("operator", .string "IS_NULL")])]])]

/-- The two zeros are told apart, and so are one and the text of one. -/
theorem ofJson_oddJson :
    (∀ c ∈ oddFilter.comparisons, ∀ v ∈ c.operand.values, v.IsStorable) ∧
    oddFilter.HasForm oddJson ∧ ofJson oddJson = .ok oddFilter := by
  have hvalues : ∀ c ∈ oddFilter.comparisons, ∀ v ∈ c.operand.values, v.IsStorable := by
    simp only [← Value.restored_eq_iff]
    decide
  have hform : oddFilter.HasForm oddJson := by
    have sorted : ∀ {a b c : String × Json}, List.Perm [a, c, b] [a, b, c] :=
      .cons _ (.swap _ _ _)
    refine ⟨_, (hasForms_iff _).mpr (.cons ⟨_, ⟨_, sorted, rfl⟩, rfl⟩
      (.cons ⟨_, (hasForms_iff _).mpr ?_, rfl⟩ (.cons ⟨_, sorted, rfl⟩ .nil))), rfl⟩
    exact .cons ⟨_, sorted, rfl⟩ (.cons ⟨_, sorted, rfl⟩ .nil)
  obtain ⟨hread, hforms⟩ := ofJson_toJson_eq_ok_iff oddFilter
  exact ⟨hvalues, hform, (hforms _ hform).trans (hread.mpr hvalues)⟩

end Predicate
end RowFilter
