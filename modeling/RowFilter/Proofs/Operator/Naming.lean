import RowFilter.Operator
import RowFilter.Proofs.Outcome

/-!
# Operators by number and by name

No two operators share a number or a name, so each is found under all of its own. A name is looked
up without the blanks around it and without regard to the case of its letters.

Headlines:
* `ofCode_eq_ok_iff`: a number leads to the operator that has it;
* `ofName_eq_ok_iff`: a name leads to the operator that goes by it, in whichever case;
* `code_of_ofCode` and `code_of_ofName`: anything else is an unsupported operator.
-/

namespace RowFilter.Operator

theorem mem_all (op : Operator) : op ∈ all := by
  cases op <;> decide

/-! ## Numbers -/

theorem code_pos (op : Operator) : 1 ≤ op.code := by
  cases op <;> decide

theorem code_le (op : Operator) : op.code ≤ 14 := by
  cases op <;> decide

theorem exists_code {n : Nat} (hlow : 1 ≤ n) (hhigh : n ≤ 14) : ∃ op : Operator, op.code = n := by
  have hmem : n ∈ all.map code := by
    rw [show all.map code = List.range' 1 14 from rfl, List.mem_range'_1]
    omega
  obtain ⟨op, -, hop⟩ := List.mem_map.mp hmem
  exact ⟨op, hop⟩

theorem ofCode_eq_ok_iff {n : Nat} {op : Operator} : ofCode n = .ok op ↔ op.code = n := by
  constructor
  · intro h
    unfold ofCode at h
    split at h
    · rename_i found hfound
      obtain rfl := Except.ok.inj h
      simpa using List.find?_some hfound
    · cases h
  · rintro rfl
    exact ofCode_code op

theorem code_of_ofCode {n : Nat} {e : Fault} (h : ofCode n = .error e) :
    e.code = .unsupportedOperator := by
  unfold ofCode at h
  split at h
  · cases h
  · rw [← Except.error.inj h]
    rfl

/-! ## Names -/

/-- The texts are the same but for the case of their letters. -/
def SameButCase (a b : String) : Prop := a.toList.map Char.toUpper = b.toList.map Char.toUpper

instance (a b : String) : Decidable (SameButCase a b) :=
  inferInstanceAs (Decidable (a.toList.map Char.toUpper = b.toList.map Char.toUpper))

/-- The operator goes by a text: by one of its names, blanks around it apart, in whichever case. -/
def GoesBy (op : Operator) (text : String) : Prop :=
  ∃ name ∈ op.names, SameButCase (Text.trim text) name

theorem names_disjoint {a b : Operator} {name : String} (ha : name ∈ a.names)
    (hb : name ∈ b.names) : a = b := by
  have hall : ∀ x ∈ all, ∀ y ∈ all, ∀ n ∈ x.names, n ∈ y.names → x = y := by decide +kernel
  exact hall a a.mem_all b b.mem_all name ha hb

/-- Names are written in capitals. -/
theorem map_toUpper_of_mem_names {op : Operator} {name : String} (h : name ∈ op.names) :
    name.toList.map Char.toUpper = name.toList := by
  have hall : ∀ x ∈ all, ∀ n ∈ x.names, n.toList.map Char.toUpper = n.toList := by decide +kernel
  exact hall op op.mem_all name h

theorem ofName?_eq_some_iff {name : String} {op : Operator} :
    ofName? name = some op ↔ name ∈ op.names := by
  rw [ofName?]
  constructor
  · intro h
    simpa using List.find?_some h
  · intro h
    obtain ⟨found, hfound⟩ : ∃ found, all.find? (·.names.contains name) = some found := by
      rw [← Option.isSome_iff_exists, List.find?_isSome]
      exact ⟨op, op.mem_all, by simpa using h⟩
    have hname : name ∈ found.names := by simpa using List.find?_some hfound
    rw [hfound, names_disjoint hname h]

/-- **A name** leads to the operator that goes by it. -/
theorem ofName_eq_ok_iff {text : String} {op : Operator} :
    ofName text = .ok op ↔ op.GoesBy text := by
  have hfind : ofName text = .ok op ↔
      ofName? (String.ofList ((Text.trim text).toList.map Char.toUpper)) = some op := by
    unfold ofName
    cases ofName? (String.ofList ((Text.trim text).toList.map Char.toUpper)) <;> simp
  rw [hfind, ofName?_eq_some_iff]
  constructor
  · intro h
    refine ⟨_, h, ?_⟩
    rw [SameButCase, map_toUpper_of_mem_names h, String.toList_ofList]
  · rintro ⟨name, hname, hcase⟩
    rw [SameButCase, map_toUpper_of_mem_names hname] at hcase
    rwa [hcase, String.ofList_toList]

theorem code_of_ofName {text : String} {e : Fault} (h : ofName text = .error e) :
    e.code = .unsupportedOperator := by
  unfold ofName at h
  split at h
  · cases h
  · rw [← Except.error.inj h]
    rfl

end RowFilter.Operator
