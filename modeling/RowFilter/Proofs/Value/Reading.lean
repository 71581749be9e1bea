import Mathlib.Data.List.Forall2
import RowFilter.Proofs.Binary64.Whole
import RowFilter.Value.Typed

/-!
# Operands from different sources

An operand comes from a typed field, from a request body, or from a stored predicate. A request body
may write what a typed field holds, and a stored predicate may hold what a request body writes, but
the operands are not always the same. A whole number beyond sixty-four signed bits is a text when a
typed field holds it, and a floating-point number when a body writes it. An array is a list in a
body, and stays JSON in a stored predicate.

Headlines:
* `operand_eq_bound_iff`, `statedBy_operand` and `statedBy_bound_iff`: a type is followed down to
  its numbers;
* **`operands_agree_iff`**: typed fields and bodies give the same operands exactly where all whole
  numbers fit sixty-four signed bits, and bodies lose whole numbers where rounding does;
* **`ofJson_eq_ofStored_iff`**: bodies and stored predicates give the same operands except for
  arrays.
-/

namespace RowFilter

namespace Value

theorem ofJson_array (items : List Json) : ofJson (.array items) = list (items.map ofJson) := by
  rw [ofJson]
  induction items with
  | nil => rfl
  | cons v vs ih => rw [ofJsonItems, List.map_cons, list.inj ih]

theorem toValue_list (items : List Typed) :
    (Typed.list items).toValue = list (items.map Typed.toValue) := by
  rw [Typed.toValue]
  induction items with
  | nil => rfl
  | cons t ts ih => rw [Typed.toValues, List.map_cons, list.inj ih]

/-! ## Whole numbers -/

/-- The value states a whole number exactly, as a number or by its digits. -/
inductive States : Value → Int → Prop where
  | int (n : Int64) : States (.int n) n.toInt
  | float {x : Binary64} {n : Int} (h : x.IsWhole n) : States (.float x) n
  | text (n : Int) : States (.text (toString n)) n

theorem states_float_iff {x : Binary64} {n : Int} : (float x).States n ↔ x.IsWhole n := by
  constructor
  · rintro ⟨⟩
    assumption
  · exact .float

theorem toInt_ofInt_of_fits {n : Int} (hlow : -0x8000000000000000 ≤ n)
    (hhigh : n < 0x8000000000000000) : (Int64.ofInt n).toInt = n :=
  Int64.toInt_ofInt_of_le hlow hhigh

/-- A typed whole number is never rounded. -/
theorem states_ofInteger (n : Int) : (Typed.ofInteger n).States n := by
  unfold Typed.ofInteger
  split
  · rename_i hfits
    have hint := States.int (Int64.ofInt n)
    rwa [toInt_ofInt_of_fits hfits.1 hfits.2] at hint
  · exact .text n

section Numbers

variable {n : Int} {low : -0x8000000000000000 ≤ n} {high : n < 0x10000000000000000}

theorem ofNumber_eq_ofInteger_iff :
    Typed.ofInteger n = ofNumber (.whole n low high) ↔ n < 0x8000000000000000 := by
  rw [Typed.ofInteger, ofNumber]
  by_cases hn : n < 0x8000000000000000
  · rw [if_pos ⟨low, hn⟩, if_pos hn]
    exact iff_of_true rfl hn
  · rw [if_neg fun h => hn h.2, if_neg hn]
    exact iff_of_false (fun h => by cases h) hn

/-- A whole number in JSON is kept if it fits sixty-four signed bits, or if its last eleven bits are
zero. -/
theorem states_ofNumber_iff :
    (ofNumber (.whole n low high)).States n ↔ n < 0x8000000000000000 ∨ 2048 ∣ n := by
  rw [ofNumber]
  by_cases hn : n < 0x8000000000000000
  · have hint := States.int (Int64.ofInt n)
    rw [toInt_ofInt_of_fits low hn] at hint
    rw [if_pos hn]
    exact iff_of_true hint (.inl hn)
  · obtain ⟨m, rfl⟩ := Int.eq_ofNat_of_zero_le (show 0 ≤ n by omega)
    have hkept := Binary64.isWhole_ofDecimal_iff (n := m) (k := 11) (by omega) (by omega) (by omega)
    rw [if_neg hn, Int.toNat_natCast, states_float_iff, hkept]
    omega

end Numbers

end Value

/-! ## Typed fields and request bodies -/

/-- The types of fields whose values a request body can write. -/
inductive FieldType where
  | signed
  | unsigned
  | bool
  | text
  | option (t : FieldType)
  | list (t : FieldType)

namespace FieldType

/-- The values of a type. -/
@[reducible] def Carrier : FieldType → Type
  | signed => Int64
  | unsigned => UInt64
  | bool => Bool
  | text => String
  | option t => Option t.Carrier
  | list t => List t.Carrier

/-- A value as a typed field holds it. -/
def typed : (t : FieldType) → t.Carrier → Typed
  | signed, n => .integer (Int64.toInt n)
  | unsigned, n => .integer (UInt64.toNat n)
  | bool, b => .bool b
  | text, s => .text s
  | option _, none => .absent
  | option t, some x => .present (t.typed x)
  | list t, xs => .list (xs.map t.typed)

/-- A value as a request body writes it. -/
def written : (t : FieldType) → t.Carrier → Json
  | signed, n => .ofInt64 n
  | unsigned, n => .ofUInt64 n
  | bool, b => .bool b
  | text, s => .string s
  | option t, x => .ofOption t.written x
  | list t, xs => .array (xs.map t.written)

/-- The whole numbers without a sign that a value holds. -/
def naturals : (t : FieldType) → t.Carrier → List UInt64
  | signed, _ | bool, _ | text, _ => []
  | unsigned, n => [n]
  | option t, x => x.toList.flatMap t.naturals
  | list t, xs => xs.flatMap t.naturals

/-- An operand states a value exactly, with all whole numbers that the value holds. -/
def StatedBy : (t : FieldType) → t.Carrier → Value → Prop
  | signed, n, v => v.States (Int64.toInt n)
  | unsigned, n, v => v.States (UInt64.toNat n)
  | bool, b, v => v = .bool b
  | text, s, v => v = .text s
  | option _, none, v => v = .null
  | option t, some x, v => t.StatedBy x v
  | list t, xs, v => ∃ vs, v = .list vs ∧ List.Forall₂ t.StatedBy xs vs

/-- The operand of a value that a typed field holds. -/
def operand (t : FieldType) (x : t.Carrier) : Value := (t.typed x).toValue

/-- The operand of a value that a request body writes. -/
def bound (t : FieldType) (x : t.Carrier) : Value := .ofJson (t.written x)

theorem operand_signed (n : Int64) : signed.operand n = Typed.ofInteger n.toInt := by
  rw [operand, typed, Typed.toValue]

theorem bound_signed (n : Int64) :
    ∃ low high, signed.bound n = .ofNumber (.whole n.toInt low high) := by
  rw [bound, written, Json.ofInt64, Value.ofJson]
  exact ⟨_, _, rfl⟩

theorem operand_unsigned (n : UInt64) : unsigned.operand n = Typed.ofInteger n.toNat := by
  rw [operand, typed, Typed.toValue]

theorem bound_unsigned (n : UInt64) :
    ∃ low high, unsigned.bound n = .ofNumber (.whole n.toNat low high) := by
  rw [bound, written, Json.ofUInt64, Value.ofJson]
  exact ⟨_, _, rfl⟩

theorem operand_list (t : FieldType) (xs : List t.Carrier) :
    (list t).operand xs = .list (xs.map t.operand) := by
  rw [operand, typed, Value.toValue_list, List.map_map]
  rfl

theorem bound_list (t : FieldType) (xs : List t.Carrier) :
    (list t).bound xs = .list (xs.map t.bound) := by
  rw [bound, written, Value.ofJson_array, List.map_map]
  rfl

/-- The whole numbers of a list are those of its items. -/
theorem forall_naturals_list {p : UInt64 → Prop} (t : FieldType) (xs : List t.Carrier) :
    (∀ n ∈ (list t).naturals xs, p n) ↔ ∀ x ∈ xs, ∀ n ∈ t.naturals x, p n := by
  simp only [naturals, List.mem_flatMap, forall_exists_index, and_imp]
  exact ⟨fun h x hx n hn => h n x hx hn, fun h n x hx hn => h x hx n hn⟩

/-- A list is stated item by item. -/
theorem statedBy_list_iff {t : FieldType} {form : t.Carrier → Value} {xs : List t.Carrier} :
    (list t).StatedBy xs (.list (xs.map form)) ↔ ∀ x ∈ xs, t.StatedBy x (form x) := by
  constructor
  · rintro ⟨vs, hvs, hall⟩
    obtain rfl := Value.list.inj hvs
    rwa [List.forall₂_map_right_iff, List.forall₂_same] at hall
  · intro hall
    refine ⟨_, rfl, ?_⟩
    rwa [List.forall₂_map_right_iff, List.forall₂_same]

/-- Numbers beyond sixty-four signed bits are all that makes a difference. -/
theorem operand_eq_bound_iff (t : FieldType) (x : t.Carrier) :
    t.operand x = t.bound x ↔ ∀ n ∈ t.naturals x, n.toNat < 0x8000000000000000 := by
  induction t with
  | signed =>
    obtain ⟨low, high, hbound⟩ := bound_signed x
    rw [operand_signed, hbound, Value.ofNumber_eq_ofInteger_iff]
    exact iff_of_true (Int64.toInt_lt x) fun n hn => absurd hn List.not_mem_nil
  | unsigned =>
    obtain ⟨low, high, hbound⟩ := bound_unsigned x
    rw [operand_unsigned, hbound, Value.ofNumber_eq_ofInteger_iff, naturals,
      List.forall_mem_singleton]
    omega
  | bool | text => exact iff_of_true rfl fun n hn => absurd hn List.not_mem_nil
  | option t ih =>
    cases x with
    | none => exact iff_of_true rfl fun n hn => absurd hn List.not_mem_nil
    | some x =>
      rw [naturals, Option.toList_some, List.flatMap_singleton]
      exact ih x
  | list t ih =>
    rw [operand_list, bound_list, Value.list.injEq, List.map_inj_left, forall_naturals_list]
    exact forall₂_congr fun x _ => ih x

/-- No whole number is lost on the way from a typed field. -/
theorem statedBy_operand (t : FieldType) (x : t.Carrier) : t.StatedBy x (t.operand x) := by
  induction t with
  | signed =>
    rw [operand_signed, StatedBy]
    exact Value.states_ofInteger _
  | unsigned =>
    rw [operand_unsigned, StatedBy]
    exact Value.states_ofInteger _
  | bool | text => rfl
  | option t ih =>
    cases x with
    | none => rfl
    | some x => exact ih x
  | list t ih =>
    rw [operand_list, statedBy_list_iff]
    exact fun x _ => ih x

/-- The whole numbers that rounding changes are lost on the way from a request body. -/
theorem statedBy_bound_iff (t : FieldType) (x : t.Carrier) :
    t.StatedBy x (t.bound x) ↔
      ∀ n ∈ t.naturals x, n.toNat < 0x8000000000000000 ∨ 2048 ∣ n.toNat := by
  induction t with
  | signed =>
    obtain ⟨low, high, hbound⟩ := bound_signed x
    rw [hbound, StatedBy, Value.states_ofNumber_iff]
    exact iff_of_true (.inl (Int64.toInt_lt x)) fun n hn => absurd hn List.not_mem_nil
  | unsigned =>
    obtain ⟨low, high, hbound⟩ := bound_unsigned x
    rw [hbound, StatedBy, Value.states_ofNumber_iff, naturals, List.forall_mem_singleton]
    omega
  | bool | text => exact iff_of_true rfl fun n hn => absurd hn List.not_mem_nil
  | option t ih =>
    cases x with
    | none => exact iff_of_true rfl fun n hn => absurd hn List.not_mem_nil
    | some x =>
      rw [naturals, Option.toList_some, List.flatMap_singleton]
      exact ih x
  | list t ih =>
    rw [bound_list, statedBy_list_iff, forall_naturals_list]
    exact forall₂_congr fun x _ => ih x

/-- **Typed fields and request bodies** give the same operand exactly if all whole numbers fit
sixty-four signed bits. Beyond these a typed field still states each number by its digits, and a
body states those whose last eleven bits are zero. -/
theorem operands_agree_iff (t : FieldType) (x : t.Carrier) :
    (t.operand x = t.bound x ↔ ∀ n ∈ t.naturals x, n.toNat < 0x8000000000000000) ∧
    t.StatedBy x (t.operand x) ∧
    (t.StatedBy x (t.bound x) ↔
      ∀ n ∈ t.naturals x, n.toNat < 0x8000000000000000 ∨ 2048 ∣ n.toNat) :=
  ⟨operand_eq_bound_iff t x, statedBy_operand t x, statedBy_bound_iff t x⟩

/-- The largest number of sixty-four bits. -/
def largest : UInt64 := 18446744073709551615

/-- **The largest number** is a text from a typed field, and the next number from a request body. -/
theorem not_operands_agree_of_largest :
    unsigned.operand largest = .text "18446744073709551615" ∧
    (∃ x : Binary64, unsigned.bound largest = .float x ∧ x.IsWhole 18446744073709551616) ∧
    unsigned.operand largest ≠ unsigned.bound largest ∧
    ¬unsigned.StatedBy largest (unsigned.bound largest) := by
  obtain ⟨low, high, hbound⟩ := bound_unsigned largest
  have hnat : largest.toNat = 18446744073709551615 := by rfl
  have hrounded := Binary64.isWhole_ofDecimal (n := 18446744073709551615) (k := 11) (by omega)
    (by omega) (by omega)
  refine ⟨?_, ⟨_, ?_, hrounded⟩, ?_, ?_⟩
  · rw [operand_unsigned, hnat, Typed.ofInteger, if_neg (by omega)]
    rfl
  · rw [hbound, Value.ofNumber, if_neg (by omega), Int.toNat_natCast, hnat]
  · rw [ne_eq, operand_eq_bound_iff, naturals, List.forall_mem_singleton]
    omega
  · rw [statedBy_bound_iff, naturals, List.forall_mem_singleton]
    omega

end FieldType

/-! ## Request bodies and stored predicates -/

namespace Value

theorem ofStored_of_not_array {j : Json} (h : ∀ items, j ≠ .array items) :
    ofJson j = ofStored j := by
  cases j with
  | array items => exact absurd rfl (h items)
  | _ => simp only [ofJson, ofStored]

theorem ofJson_ne_json_array (j : Json) (items : List Json) : ofJson j ≠ json (.array items) := by
  cases j with
  | number n =>
    rw [ofJson]
    exact ofNumber_ne_json n _
  | _ => simp [ofJson]

/-- The sequence of an array is never that of the array kept whole. -/
theorem slice_array_ne (items : List Json) :
    (ofJson (.array items)).slice ≠ (ofStored (.array items)).slice := by
  rw [ofJson_array]
  intro h
  obtain ⟨j, -, hj⟩ := List.map_eq_singleton_iff.mp h
  exact ofJson_ne_json_array j items hj

/-- **Bodies and stored predicates** give the same operand for everything but arrays. An array in a
body is a list whose items are operands in turn; in a stored predicate it is kept whole, so it is
never empty and is a sequence of one. -/
theorem ofJson_eq_ofStored_iff (j : Json) :
    (ofJson j = ofStored j ↔ ∀ items, j ≠ .array items) ∧
    ((ofJson j).isEmpty = (ofStored j).isEmpty ↔ j ≠ .array []) ∧
    ((ofJson j).slice = (ofStored j).slice ↔ ∀ items, j ≠ .array items) ∧
    ∀ items, j = .array items →
      ofJson j = list (items.map ofJson) ∧ ofStored j = json (.array items) := by
  by_cases harray : ∀ items, j ≠ .array items
  · have heq := ofStored_of_not_array harray
    rw [heq]
    exact ⟨iff_of_true rfl harray, iff_of_true rfl (harray []), iff_of_true rfl harray,
      fun items hj => absurd hj (harray items)⟩
  · obtain ⟨items, rfl⟩ := not_forall_not.mp harray
    refine ⟨iff_of_false ?_ harray, ?_, iff_of_false (slice_array_ne items) harray, ?_⟩
    · exact fun h => slice_array_ne items (congrArg slice h)
    · rw [ofJson_array]
      cases items <;> simp [ofStored, isEmpty]
    · rintro _ ⟨⟩
      exact ⟨ofJson_array items, rfl⟩

/-- **An empty array** is an empty list in a body, and is something in a stored predicate. -/
theorem not_ofJson_eq_ofStored_of_array :
    ofJson (.array []) ≠ ofStored (.array []) ∧
    (ofJson (.array [])).isEmpty = true ∧ (ofStored (.array [])).isEmpty = false ∧
    (ofJson (.array [])).slice = [] ∧ (ofStored (.array [])).slice = [json (.array [])] := by
  decide

end Value
end RowFilter
