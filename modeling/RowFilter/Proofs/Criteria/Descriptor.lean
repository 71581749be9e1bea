import RowFilter.Criteria.Schema
import RowFilter.Proofs.Criteria.Search
import RowFilter.Proofs.Json.Structure
import RowFilter.Proofs.Operator.Naming

/-!
# What a schema says about operators

A descriptor may leave its operator out, leave it null, or write a number or a name. All descriptors
of a schema are read before any operator is looked up. A number that does not fit a byte is not read
at all, and so it is reported as a descriptor of the wrong shape; any other number and any name that
no operator goes by are reported as unsupported.

Headlines:
* `Descriptor.ofJson_object`: a well-formed descriptor is read if its operator is;
* **`ofJson_reports`**: a schema of such descriptors is made exactly if all operators are known,
  and otherwise reports an unsupported operator, as long as all numbers fit a byte;
* **`not_reported_of_large`**: a larger number is not reported as an operator.
-/

namespace RowFilter

open Json (Reading Outline)
open Outcome (bind_ok_iff map_ok_iff map_error_iff refusal? refusal?_bind_pure
  refusal?_eq_some_iff)

/-! ## Operators as they are written -/

/-- How a descriptor writes its operator. -/
inductive WrittenOperator where
  | omitted
  | null
  | number (n : Int) (low : -0x8000000000000000 ≤ n) (high : n < 0x10000000000000000)
  | name (s : String)

namespace WrittenOperator

/-- The member that writes the operator, if there is one. -/
def member? : WrittenOperator → Option Json
  | omitted => none
  | null => some .null
  | number n low high => some (.number (.whole n low high))
  | name s => some (.string s)

/-- The operator is known: it is left to be equality, or it has one of the fourteen numbers, or an
operator goes by its name. -/
def IsKnown : WrittenOperator → Prop
  | omitted | null => True
  | number n _ _ => 1 ≤ n ∧ n ≤ 14
  | name s => ∃ op : Operator, op.GoesBy s

/-- A number that is written fits a byte. -/
def FitsByte : WrittenOperator → Prop
  | omitted | null | name _ => True
  | number n _ _ => 0 ≤ n ∧ n < 256

/-- The operator that is meant. -/
inductive Means : WrittenOperator → Operator → Prop where
  | omitted : Means omitted .equal
  | null : Means null .equal
  | number {n : Int} {low high} {op : Operator} (h : n = op.code) : Means (number n low high) op
  | name {s : String} {op : Operator} (h : op.GoesBy s) : Means (name s) op

/-- How the operator is read. -/
def read (w : WrittenOperator) : Reading (Option OperatorRef) :=
  (w.member?.getD .null).readOption OperatorRef.ofJson

/-- What the operator is read as. -/
def ref? : WrittenOperator → Option OperatorRef
  | omitted | null => none
  | number n _ _ => some (.code n.toNat)
  | name s => some (.name s)

/-- The operator that a reference leads to; without one it is equality. -/
def resolve : Option OperatorRef → Except Fault Operator
  | some ref => ref.resolve
  | none => .ok .equal

section Reading

variable {w : WrittenOperator} {ref : Option OperatorRef} {op : Operator}

/-- Only a number that does not fit a byte is not read. -/
theorem read_eq_ok_iff : w.read = .ok ref ↔ w.FitsByte ∧ ref = w.ref? := by
  cases w with
  | omitted | null | name =>
    simp [read, member?, Json.readOption, OperatorRef.ofJson, Except.map, FitsByte, ref?, eq_comm]
  | number n low high =>
    have hread : (number n low high).read = if 0 ≤ n ∧ n < 256 then .ok (some (.code n.toNat))
        else .error (.noForm "OperatorRef") := by
      show Except.map some (OperatorRef.ofJson (.number (.whole n low high))) = _
      rw [OperatorRef.ofJson]
      split <;> rfl
    rw [hread, FitsByte, ref?]
    by_cases hn : 0 ≤ n ∧ n < 256
    · simp [hn, eq_comm]
    · simp [hn]

/-- **What is read** leads to the operator that is meant, and to no other. -/
theorem resolve_eq_ok_iff : resolve w.ref? = .ok op ↔ w.Means op := by
  cases w with
  | omitted =>
    constructor
    · rintro ⟨⟩
      exact .omitted
    · rintro ⟨⟩
      rfl
  | null =>
    constructor
    · rintro ⟨⟩
      exact .null
    · rintro ⟨⟩
      rfl
  | number n low high =>
    -- a negative number is read as zero, which is no operator's either
    have hpos := op.code_pos
    rw [ref?, resolve, OperatorRef.resolve, Operator.ofCode_eq_ok_iff]
    constructor
    · intro hcode
      exact .number (by omega)
    · intro hmeans
      cases hmeans with
      | number hcode => omega
  | name s =>
    rw [ref?, resolve, OperatorRef.resolve, Operator.ofName_eq_ok_iff]
    constructor
    · exact .name
    · intro hmeans
      cases hmeans with
      | name hname => exact hname

theorem code_of_resolve {e : Fault} (h : resolve ref = .error e) :
    e.code = .unsupportedOperator := by
  cases ref with
  | none => cases h
  | some ref =>
    rw [resolve] at h
    cases ref with
    | code n =>
      rw [OperatorRef.resolve] at h
      exact Operator.code_of_ofCode h
    | name s =>
      rw [OperatorRef.resolve] at h
      exact Operator.code_of_ofName h

theorem exists_means_iff : (∃ op, w.Means op) ↔ w.IsKnown := by
  cases w with
  | omitted => exact iff_of_true ⟨_, .omitted⟩ trivial
  | null => exact iff_of_true ⟨_, .null⟩ trivial
  | number n low high =>
    rw [IsKnown]
    constructor
    · rintro ⟨op, hmeans⟩
      have hlow := op.code_pos
      have hhigh := op.code_le
      cases hmeans with
      | number hcode => omega
    · rintro ⟨hlow, hhigh⟩
      obtain ⟨op, hop⟩ := Operator.exists_code (n := n.toNat) (by omega) (by omega)
      exact ⟨op, .number (by omega)⟩
  | name s =>
    rw [IsKnown]
    constructor
    · rintro ⟨op, hmeans⟩
      cases hmeans with
      | name hname => exact ⟨op, hname⟩
    · rintro ⟨op, hop⟩
      exact ⟨op, .name hop⟩

theorem IsKnown.fitsByte (h : w.IsKnown) : w.FitsByte := by
  cases w with
  | omitted | null | name => trivial
  | number n low high =>
    rw [IsKnown] at h
    rw [FitsByte]
    omega

end Reading

end WrittenOperator

/-! ## Descriptors -/

namespace Descriptor

/-- What a well-formed descriptor says. -/
structure Said where
  name : String
  operator : WrittenOperator
  column : Option String
  targets : List String

/-- The members of an object write a descriptor: each of them once, none beside them, in any
order. -/
structure Said.WrittenBy (d : Said) (members : List (String × Json)) : Prop where
  distinct : (members.map Prod.fst).Nodup
  known : ∀ m ∈ members, m.1 ∈ outline.fields
  name : Json.lookup "name" members = some (.string d.name)
  operator : Json.lookup "operator" members = d.operator.member?
  /-- The column may be left out or be null. -/
  column : (Json.lookup "column" members).getD .null = .ofOption .string d.column
  /-- The targets may be left out. -/
  targets : (Json.lookup "blurry" members).getD (.array []) = .array (d.targets.map .string)

/-- The field is as the descriptor says. -/
structure Said.Becomes (d : Said) (spec : FieldSpec) : Prop where
  name : spec.name = d.name
  operator : d.operator.Means spec.operator
  column : spec.column = d.column
  /-- Each target once, where it is first given. -/
  targets : FirstOccurrences d.targets spec.targets

/-- The descriptor that is read. -/
def Said.described (d : Said) : Descriptor := ⟨d.name, d.operator.ref?, d.column, d.targets⟩

/-! ### Parts -/

/-- A part does not touch what other parts set. -/
theorem set_frame {parts parts' : Parts} {k : String} {v : Json} (hk : k ∈ outline.fields)
    (h : parts.set k v = .ok parts') : (k ≠ "name" → parts'.name = parts.name) ∧
      (k ≠ "operator" → parts'.operator = parts.operator) ∧
      (k ≠ "column" → parts'.column = parts.column) ∧
      (k ≠ "blurry" → parts'.blurry = parts.blurry) := by
  simp only [outline, List.mem_cons, List.not_mem_nil, or_false] at hk
  rcases hk with rfl | rfl | rfl | rfl
  all_goals
    obtain ⟨x, -, h⟩ := bind_ok_iff.mp h
    obtain rfl := Except.ok.inj h
    simp

theorem readsAt_name :
    outline.ReadsAt Parts.set "name" (fun v => v.readString.map some) Parts.name where
  own h := by
    obtain ⟨name, hname, h⟩ := bind_ok_iff.mp h
    obtain rfl := Except.ok.inj h
    exact map_ok_iff.mpr ⟨name, hname, rfl⟩
  frame hk hne h := (set_frame hk h).1 hne

theorem readsAt_operator :
    outline.ReadsAt Parts.set "operator" (Json.readOption OperatorRef.ofJson) Parts.operator :=
  .of_update (fun _ _ => rfl) (fun _ _ => rfl) fun hk hne h => (set_frame hk h).2.1 hne

theorem readsAt_column :
    outline.ReadsAt Parts.set "column" (Json.readOption Json.readString) Parts.column :=
  .of_update (fun _ _ => rfl) (fun _ _ => rfl) fun hk hne h => (set_frame hk h).2.2.1 hne

theorem readsAt_blurry :
    outline.ReadsAt Parts.set "blurry" (Json.readList Json.readString) Parts.blurry :=
  .of_update (fun _ _ => rfl) (fun _ _ => rfl) fun hk hne h => (set_frame hk h).2.2.2 hne

/-- Why a part is refused, if it is. -/
def refusedPart (field : String) (v : Json) : Option Json.Mismatch :=
  refusal? (Parts.set {} field v)

theorem refusal?_set (parts : Parts) (field : String) (v : Json) :
    refusal? (parts.set field v) = refusedPart field v := by
  unfold refusedPart Parts.set
  split <;> exact (refusal?_bind_pure _ _).trans (refusal?_bind_pure _ _).symm

/-! ### Reading -/

section Reading

variable {d : Said} {members : List (String × Json)}

theorem readList_strings (texts : List String) :
    (Json.array (texts.map .string)).readList Json.readString = .ok texts := by
  rw [Json.readList, Outcome.mapM_eq_ok_iff, List.forall₂_map_left_iff, List.forall₂_same]
  exact fun _ _ => rfl

theorem readOption_ofOption (text : Option String) :
    (Json.ofOption .string text).readOption Json.readString = .ok text := by
  cases text <;> rfl

/-- The parts of a well-formed descriptor are what it says. -/
theorem parts_of_foldlM (h : d.WrittenBy members) {parts : Parts}
    (hparts : members.foldlM (fun s m => Parts.set s m.1 m.2) {} = .ok parts) :
    d.operator.read = .ok parts.operator ∧
      parts = ⟨some d.name, parts.operator, d.column, d.targets⟩ := by
  have hname : (Json.lookup "name" members).elim _ _ :=
    Outline.get_foldlM readsAt_name id h.known h.distinct hparts
  have hoperator := Outline.read_getD_of_foldlM readsAt_operator h.known h.distinct hparts
    (v := .null) rfl
  have hcolumn := Outline.read_getD_of_foldlM readsAt_column h.known h.distinct hparts
    (v := .null) rfl
  have htargets := Outline.read_getD_of_foldlM readsAt_blurry h.known h.distinct hparts
    (v := .array []) rfl
  rw [h.name] at hname
  rw [h.operator] at hoperator
  rw [h.column, readOption_ofOption] at hcolumn
  rw [h.targets, readList_strings] at htargets
  obtain ⟨name, operator, column, blurry⟩ := parts
  obtain rfl := Except.ok.inj hname
  obtain rfl := Except.ok.inj hcolumn
  obtain rfl := Except.ok.inj htargets
  exact ⟨hoperator, rfl⟩

/-- Of a well-formed descriptor nothing but the operator is refused. -/
theorem refusedPart_of_mem (h : d.WrittenBy members) {m : String × Json} (hm : m ∈ members) :
    refusedPart m.1 m.2 = if m.1 = "operator" then refusal? d.operator.read else none := by
  have hlookup : Json.lookup m.1 members = some m.2 := lookup_of_mem h.distinct hm
  obtain ⟨field, v⟩ := m
  have hfield := h.known _ hm
  simp only [outline, List.mem_cons, List.not_mem_nil, or_false] at hfield
  rcases hfield with rfl | rfl | rfl | rfl
  · obtain rfl := Option.some.inj (hlookup.symm.trans h.name)
    rfl
  · have hread : d.operator.read = v.readOption OperatorRef.ofJson := by
      rw [WrittenOperator.read, ← h.operator, hlookup, Option.getD_some]
    rw [if_pos rfl, hread]
    exact refusal?_bind_pure _ _
  · have hcolumn : v = .ofOption .string d.column := by
      have := h.column
      rwa [hlookup] at this
    have hread : v.readOption Json.readString = .ok d.column := hcolumn ▸ readOption_ofOption _
    exact (refusal?_bind_pure (v.readOption Json.readString) _).trans (by rw [hread]; rfl)
  · have htargets : v = .array (d.targets.map .string) := by
      have := h.targets
      rwa [hlookup] at this
    have hread : v.readList Json.readString = .ok d.targets := htargets ▸ readList_strings _
    exact (refusal?_bind_pure (v.readList Json.readString) _).trans (by rw [hread]; rfl)

/-- A well-formed descriptor is refused exactly if its operator is. -/
theorem refusal?_foldlM_of_writtenBy (h : d.WrittenBy members) :
    refusal? (members.foldlM (fun s m => Parts.set s m.1 m.2) {}) = refusal? d.operator.read := by
  rw [Outline.refusal?_foldlM refusal?_set]
  cases hfound : members.findSome? fun m => refusedPart m.1 m.2 with
  | some e =>
    obtain ⟨m, hm, he⟩ := List.exists_of_findSome?_eq_some hfound
    rw [refusedPart_of_mem h hm] at he
    split at he
    · exact he.symm
    · cases he
  | none =>
    rw [List.findSome?_eq_none_iff] at hfound
    cases hlookup : Json.lookup "operator" members with
    | none =>
      rw [WrittenOperator.read, ← h.operator, hlookup]
      rfl
    | some v =>
      have hm := mem_of_lookup hlookup
      have hnone := hfound _ hm
      rw [refusedPart_of_mem h hm, if_pos rfl] at hnone
      exact hnone.symm

/-- **A well-formed descriptor** is read if its operator is, and then says what is written. -/
theorem ofJson_object (h : d.WrittenBy members) :
    ofJson (.object members) = d.operator.read.map fun _ => d.described := by
  have hrefusal := refusal?_foldlM_of_writtenBy h
  have hread : outline.read Parts.set {} (.object members) =
      (members.foldlM (fun s m => Parts.set s m.1 m.2) {}).map (·, .members) := by
    rw [Outline.read, Outline.foldlM_member_eq h.known]
    rfl
  rw [ofJson, hread]
  cases hparts : members.foldlM (fun s m => Parts.set s m.1 m.2) {} with
  | error e =>
    rw [hparts] at hrefusal
    rw [refusal?_eq_some_iff.mp hrefusal.symm]
    rfl
  | ok parts =>
    obtain ⟨hoperator, hall⟩ := parts_of_foldlM h hparts
    obtain ⟨-, hwritten⟩ := WrittenOperator.read_eq_ok_iff.mp hoperator
    rw [hoperator, hall, hwritten]
    rfl

/-- The field that is made of a descriptor, once its operator is known. -/
theorem toSpec_eq (d : Descriptor) :
    d.toSpec = (WrittenOperator.resolve d.operator).map fun operator =>
      ⟨d.name, operator, d.column, d.blurry.eraseDups⟩ := by
  obtain ⟨name, operator, column, blurry⟩ := d
  have htargets : blurry.foldl FieldSpec.addTarget [] = blurry.eraseDups :=
    FieldSpec.foldl_addTarget [] blurry
  rw [← htargets]
  cases operator with
  | none => rfl
  | some ref =>
    rw [WrittenOperator.resolve]
    simp only [toSpec]
    cases ref.resolve <;> rfl

/-- **What is made of a descriptor** is a field as the descriptor says, and any such field. -/
theorem toSpec_described_eq_ok_iff {spec : FieldSpec} :
    d.described.toSpec = .ok spec ↔ d.Becomes spec := by
  rw [toSpec_eq, map_ok_iff]
  simp only [Said.described, WrittenOperator.resolve_eq_ok_iff]
  constructor
  · rintro ⟨op, hop, rfl⟩
    exact ⟨rfl, hop, rfl, firstOccurrences_eraseDups _⟩
  · obtain ⟨name, op, column, targets⟩ := spec
    rintro ⟨rfl, hop, rfl, htargets⟩
    obtain rfl : targets = d.targets.eraseDups := htargets.eq_eraseDups
    exact ⟨op, hop, rfl⟩

theorem exists_becomes_iff : (∃ spec, d.Becomes spec) ↔ d.operator.IsKnown := by
  rw [← WrittenOperator.exists_means_iff]
  constructor
  · rintro ⟨spec, hspec⟩
    exact ⟨_, hspec.operator⟩
  · rintro ⟨op, hop⟩
    exact ⟨⟨d.name, op, d.column, d.targets.eraseDups⟩, rfl, hop, rfl, firstOccurrences_eraseDups _⟩

/-- One field after another is made as the descriptors say. -/
theorem mapM_toSpec_eq_ok_iff {said : List Said} {fields : List FieldSpec} :
    (said.mapM fun d => d.described.toSpec) = .ok fields ↔
      List.Forall₂ Said.Becomes said fields := by
  simp only [Outcome.mapM_eq_ok_iff, toSpec_described_eq_ok_iff]

theorem exists_forall₂_becomes_iff {said : List Said} :
    (∃ fields, List.Forall₂ Said.Becomes said fields) ↔ ∀ d ∈ said, d.operator.IsKnown := by
  simp only [← mapM_toSpec_eq_ok_iff, Outcome.exists_mapM_eq_ok_iff, toSpec_described_eq_ok_iff,
    exists_becomes_iff]

theorem code_of_toSpec {d : Descriptor} {e : Fault} (h : d.toSpec = .error e) :
    e.code = .unsupportedOperator := by
  rw [toSpec_eq, map_error_iff] at h
  exact WrittenOperator.code_of_resolve h

end Reading

end Descriptor

/-! ## Schemas -/

namespace Schema

open Descriptor (Said)

/-- What becomes of a schema of well-formed descriptors. -/
structure Reports (said : List Said) (made : Except Fault Schema) : Prop where
  /-- It is made exactly if all operators are known. -/
  isOk_iff : (∃ s, made = .ok s) ↔ ∀ d ∈ said, d.operator.IsKnown
  /-- It is made of one field for each descriptor, in their order. -/
  eq_ok_iff : ∀ s, made = .ok s ↔ List.Forall₂ Said.Becomes said s.fields
  /-- Otherwise an unsupported operator is reported, as long as the numbers fit a byte. -/
  unsupported : (∀ d ∈ said, d.operator.FitsByte) → (∃ d ∈ said, ¬d.operator.IsKnown) →
    ∃ e, made = .error e ∧ e.code = .unsupportedOperator
  /-- A number that does not is taken for a descriptor of the wrong shape. -/
  reflection : (∃ d ∈ said, ¬d.operator.FitsByte) → ∃ e, made = .error e ∧ e.code = .reflection

section Reading

variable {said : List Said} {members : List (List (String × Json))}

theorem readList_objects (h : List.Forall₂ Said.WrittenBy said members) :
    (Json.array (members.map .object)).readList Descriptor.ofJson =
      said.mapM fun d => d.operator.read.map fun _ => d.described := by
  refine Outcome.mapM_congr_of_forall₂ (List.forall₂_map_left_iff.mpr ?_)
  exact h.flip.imp fun _ _ hd => Descriptor.ofJson_object hd

/-- All descriptors are read if the numbers fit a byte. -/
theorem readList_objects_eq_ok_iff (h : List.Forall₂ Said.WrittenBy said members)
    {descriptors : List Descriptor} :
    (Json.array (members.map .object)).readList Descriptor.ofJson = .ok descriptors ↔
      (∀ d ∈ said, d.operator.FitsByte) ∧ descriptors = said.map Said.described := by
  rw [readList_objects h]
  refine Outcome.mapM_eq_ok_map_iff fun d described => ?_
  simp only [map_ok_iff, WrittenOperator.read_eq_ok_iff]
  constructor
  · rintro ⟨_, ⟨hfits, -⟩, rfl⟩
    exact ⟨hfits, rfl⟩
  · rintro ⟨hfits, rfl⟩
    exact ⟨_, ⟨hfits, rfl⟩, rfl⟩

/-- Once all descriptors are read, one field is made after another. -/
theorem ofJson_of_fitsByte (h : List.Forall₂ Said.WrittenBy said members)
    (hfits : ∀ d ∈ said, d.operator.FitsByte) :
    ofJson (.array (members.map .object)) =
      (said.mapM fun d : Said => d.described.toSpec).map mk := by
  rw [ofJson, (readList_objects_eq_ok_iff h).mpr ⟨hfits, rfl⟩]
  show (said.map Said.described).mapM Descriptor.toSpec >>= _ = _
  rw [List.mapM_map]
  rfl

theorem ofJson_of_not_fitsByte (h : List.Forall₂ Said.WrittenBy said members)
    (hlarge : ∃ d ∈ said, ¬d.operator.FitsByte) :
    ∃ m, ofJson (.array (members.map .object)) = .error (unreadable m) := by
  cases hread : (Json.array (members.map .object)).readList Descriptor.ofJson with
  | ok descriptors =>
    obtain ⟨d, hd, hnot⟩ := hlarge
    exact absurd (((readList_objects_eq_ok_iff h).mp hread).1 d hd) hnot
  | error m =>
    refine ⟨m, ?_⟩
    rw [ofJson, hread]
    rfl

theorem ofJson_eq_ok_iff (h : List.Forall₂ Said.WrittenBy said members) {s : Schema} :
    ofJson (.array (members.map .object)) = .ok s ↔ List.Forall₂ Said.Becomes said s.fields := by
  by_cases hfits : ∀ d ∈ said, d.operator.FitsByte
  · rw [ofJson_of_fitsByte h hfits, map_ok_iff]
    simp only [Descriptor.mapM_toSpec_eq_ok_iff]
    constructor
    · rintro ⟨fields, hfields, rfl⟩
      exact hfields
    · exact fun hfields => ⟨_, hfields, rfl⟩
  · constructor
    · intro hok
      obtain ⟨m, hm⟩ := ofJson_of_not_fitsByte h (by simpa using hfits)
      rw [hm] at hok
      cases hok
    · intro hfields
      have hknown := Descriptor.exists_forall₂_becomes_iff.mp ⟨_, hfields⟩
      exact absurd (fun d hd => (hknown d hd).fitsByte) hfits

end Reading

/-- **A schema of well-formed descriptors**: what is made of it, and what is reported otherwise. -/
theorem ofJson_reports {said : List Said} {members : List (List (String × Json))}
    (h : List.Forall₂ Said.WrittenBy said members) :
    Reports said (ofJson (.array (members.map .object))) := by
  have hisOk : (∃ s, ofJson (.array (members.map .object)) = .ok s) ↔
      ∀ d ∈ said, d.operator.IsKnown := by
    rw [← Descriptor.exists_forall₂_becomes_iff]
    simp only [ofJson_eq_ok_iff h]
    exact ⟨fun ⟨s, hs⟩ => ⟨s.fields, hs⟩, fun ⟨fields, hfields⟩ => ⟨⟨fields⟩, hfields⟩⟩
  refine ⟨hisOk, fun s => ofJson_eq_ok_iff h, fun hfits ⟨d, hd, hunknown⟩ => ?_, fun hlarge => ?_⟩
  · cases hmade : ofJson (.array (members.map .object)) with
    | ok s => exact absurd (hisOk.mp ⟨s, hmade⟩ d hd) hunknown
    | error e =>
      rw [ofJson_of_fitsByte h hfits, map_error_iff] at hmade
      obtain ⟨-, d, -, -, hd, -⟩ := Outcome.mapM_eq_error_iff.mp hmade
      exact ⟨e, rfl, Descriptor.code_of_toSpec hd⟩
  · obtain ⟨m, hm⟩ := ofJson_of_not_fitsByte h hlarge
    exact ⟨_, hm, rfl⟩

/-- Operators are given by a name, as null and by a number; then one is given that is not known. -/
theorem ofJson_reports_known_and_unknown :
    ofJson (.array [
      .object [("operator", .string " greater_than_or_equal\t"), ("name", .string "age")],
      .object [("name", .string "q"), ("operator", .null),
        ("blurry", .array [.string "a", .string "b", .string "a"])],
      .object [("name", .string "gone"), ("column", .string "deleted_at"),
        ("operator", .number (.whole 14 (by decide) (by decide)))]]) =
      .ok ⟨[⟨"age", .greaterOrEqual, none, []⟩, ⟨"q", .equal, none, ["a", "b"]⟩,
        ⟨"gone", .isNotNull, some "deleted_at", []⟩]⟩ ∧
    ∃ e, ofJson (.array [.object [("name", .string "age"), ("column", .null),
      ("operator", .number (.whole 15 (by decide) (by decide)))]]) = .error e ∧
      e.code = .unsupportedOperator := by
  constructor
  · have hname : Operator.GoesBy .greaterOrEqual " greater_than_or_equal\t" :=
      ⟨"GREATER_THAN_OR_EQUAL", by decide, by decide⟩
    have hwritten : List.Forall₂ Said.WrittenBy
        [⟨"age", .name " greater_than_or_equal\t", none, []⟩, ⟨"q", .null, none, ["a", "b", "a"]⟩,
          ⟨"gone", .number 14 (by decide) (by decide), some "deleted_at", []⟩]
        [[("operator", .string " greater_than_or_equal\t"), ("name", .string "age")],
          [("name", .string "q"), ("operator", .null),
            ("blurry", .array [.string "a", .string "b", .string "a"])],
          [("name", .string "gone"), ("column", .string "deleted_at"),
            ("operator", .number (.whole 14 (by decide) (by decide)))]] :=
      .cons ⟨by decide, by decide, rfl, rfl, rfl, rfl⟩
        (.cons ⟨by decide, by decide, rfl, rfl, rfl, rfl⟩
          (.cons ⟨by decide, by decide, rfl, rfl, rfl, rfl⟩ .nil))
    exact ((ofJson_reports hwritten).eq_ok_iff _).mpr
      (.cons ⟨rfl, .name hname, rfl, firstOccurrences_eraseDups _⟩
        (.cons ⟨rfl, .null, rfl, firstOccurrences_eraseDups _⟩
          (.cons ⟨rfl, .number rfl, rfl, firstOccurrences_eraseDups _⟩ .nil)))
  · have hwritten : List.Forall₂ Said.WrittenBy
        [⟨"age", .number 15 (by decide) (by decide), none, []⟩]
        [[("name", .string "age"), ("column", .null),
          ("operator", .number (.whole 15 (by decide) (by decide)))]] :=
      .cons ⟨by decide, by decide, rfl, rfl, rfl, rfl⟩ .nil
    exact (ofJson_reports hwritten).unsupported (by simp [WrittenOperator.FitsByte])
      ⟨_, List.mem_singleton_self _, by simp [WrittenOperator.IsKnown]⟩

/-- **A number that does not fit a byte** is not reported as an operator. -/
theorem not_reported_of_large :
    ¬∀ (said : List Said) (members : List (List (String × Json))),
      List.Forall₂ Said.WrittenBy said members → (∃ d ∈ said, ¬d.operator.IsKnown) →
      ∃ e, ofJson (.array (members.map .object)) = .error e ∧ e.code = .unsupportedOperator := by
  intro hall
  obtain ⟨e, he, hcode⟩ := hall
    [⟨"a", .number 256 (by decide) (by decide), none, []⟩]
    [[("name", .string "a"), ("operator", .number (.whole 256 (by decide) (by decide)))]]
    (.cons ⟨by decide, by decide, rfl, rfl, rfl, rfl⟩ .nil)
    ⟨_, List.mem_singleton_self _, by simp [WrittenOperator.IsKnown]⟩
  obtain rfl : unreadable (.noForm "OperatorRef") = e := Except.error.inj he
  exact absurd hcode (by decide)

end Schema
end RowFilter
