import RowFilter.Binary64

/-!
# JSON values

Numbers are whole numbers of sixty-four bits, signed or unsigned, or finite floating-point
numbers. An object keeps its members in a fixed order: the reader lists them by ascending names,
each name once, as `ofMembers` does; a structure that is written lists them as it declares them.
-/

namespace RowFilter

/-- A JSON number. -/
inductive Number where
  | whole (n : Int) (low : -0x8000000000000000 ≤ n) (high : n < 0x10000000000000000)
  | real (x : Binary64) (finite : x.isFinite = true)
  deriving DecidableEq

/-- A JSON value. -/
inductive Json where
  | null
  | bool (b : Bool)
  | number (n : Number)
  | string (s : String)
  | array (items : List Json)
  | object (members : List (String × Json))
  deriving Inhabited

/-! ## Equality -/

mutual

/-- Decides equality of values. -/
def Json.decidableEq : (a b : Json) → Decidable (a = b)
  | .null, .null => isTrue rfl
  | .bool a, .bool b => decidable_of_iff (a = b) (by simp)
  | .number a, .number b => decidable_of_iff (a = b) (by simp)
  | .string a, .string b => decidable_of_iff (a = b) (by simp)
  | .array a, .array b => @decidable_of_iff _ (a = b) (by simp) (Json.decidableEqItems a b)
  | .object a, .object b => @decidable_of_iff _ (a = b) (by simp) (Json.decidableEqMembers a b)
  | .null, .bool _ | .null, .number _ | .null, .string _ | .null, .array _ | .null, .object _
  | .bool _, .null | .bool _, .number _ | .bool _, .string _ | .bool _, .array _
  | .bool _, .object _ | .number _, .null | .number _, .bool _ | .number _, .string _
  | .number _, .array _ | .number _, .object _ | .string _, .null | .string _, .bool _
  | .string _, .number _ | .string _, .array _ | .string _, .object _ | .array _, .null
  | .array _, .bool _ | .array _, .number _ | .array _, .string _ | .array _, .object _
  | .object _, .null | .object _, .bool _ | .object _, .number _ | .object _, .string _
  | .object _, .array _ => isFalse (by simp)

/-- Decides equality of lists of values. -/
def Json.decidableEqItems : (a b : List Json) → Decidable (a = b)
  | [], [] => isTrue rfl
  | [], _ :: _ | _ :: _, [] => isFalse (by simp)
  | a :: as, b :: bs =>
    match Json.decidableEq a b, Json.decidableEqItems as bs with
    | isTrue h, isTrue t => isTrue (by rw [h, t])
    | isFalse h, _ => isFalse (by simp [h])
    | _, isFalse t => isFalse (by simp [t])

/-- Decides equality of lists of members. -/
def Json.decidableEqMembers : (a b : List (String × Json)) → Decidable (a = b)
  | [], [] => isTrue rfl
  | [], _ :: _ | _ :: _, [] => isFalse (by simp)
  | (k, a) :: as, (l, b) :: bs =>
    match decEq k l, Json.decidableEq a b, Json.decidableEqMembers as bs with
    | isTrue n, isTrue h, isTrue t => isTrue (by rw [n, h, t])
    | isFalse n, _, _ => isFalse (by simp [n])
    | _, isFalse h, _ => isFalse (by simp [h])
    | _, _, isFalse t => isFalse (by simp [t])

end

instance : DecidableEq Json := Json.decidableEq

namespace Json

/-! ## Numbers -/

/-- A whole number, when sixty-four bits hold it. -/
def ofInt? (n : Int) : Option Json :=
  if h : -0x8000000000000000 ≤ n ∧ n < 0x10000000000000000 then
    some (number (.whole n h.1 h.2))
  else
    none

/-- A whole number of sixty-four bits with its sign. -/
def ofInt64 (n : Int64) : Json :=
  number (.whole n.toInt (by have := n.le_toInt; omega) (by have := n.toInt_lt; omega))

/-- A natural number of sixty-four bits. -/
def ofUInt64 (n : UInt64) : Json :=
  number (.whole n.toNat (by omega) (by have := n.toNat_lt; omega))

/-- A floating-point number; what is not finite has no number and is written as null. -/
def ofBinary64 (x : Binary64) : Json :=
  if h : x.isFinite = true then number (.real x h) else null

/-- What may be missing; null where it is. -/
def ofOption {α : Type} (f : α → Json) : Option α → Json
  | some a => f a
  | none => null

/-! ## Members -/

/-- The value of a name among members. -/
abbrev lookup (name : String) (members : List (String × Json)) : Option Json :=
  members.lookup name

/-- Members with one name set, placed in ascending order. -/
def insert (name : String) (value : Json) : List (String × Json) → List (String × Json)
  | [] => [(name, value)]
  | (k, v) :: rest =>
    if name < k then (name, value) :: (k, v) :: rest
    else if name = k then (name, value) :: rest
    else (k, v) :: insert name value rest

/-- Members in ascending order; of a repeated name the last value stays. -/
def ofMembers (members : List (String × Json)) : Json :=
  object (members.foldl (fun sorted m => insert m.1 m.2 sorted) [])

/-! ## Kinds -/

/-- Whether the value is an object. -/
def isObject : Json → Bool
  | object _ => true
  | _ => false

/-- The kind of a value, with its article (`json_kind`). -/
def kind : Json → String
  | null => "null"
  | bool _ => "a boolean"
  | number _ => "a number"
  | string _ => "a string"
  | array _ => "an array"
  | object _ => "an object"

end Json
end RowFilter
