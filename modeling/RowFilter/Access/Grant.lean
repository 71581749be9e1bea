import RowFilter.Fault
import RowFilter.Json.Decode
import RowFilter.Text.Blank
import RowFilter.Value.JsonForm

/-!
# Grants

Who acts, and what each of their roles may see: everything, the rows of the acting user, those of
the user's department alone or with the departments below it, or those of departments listed with
the role.
-/

namespace RowFilter.Access

open Json (Reading Outline)

/-! ## Scopes -/

/-- Which rows a role may see (`DataScope`). -/
inductive Scope where
  | all
  | deptAndChild
  | dept
  /-- The rows of the acting user. -/
  | own
  /-- The departments listed with the role. -/
  | custom
  deriving DecidableEq

namespace Scope

/-- Every scope, by ascending number. -/
def every : List Scope := [all, deptAndChild, dept, own, custom]

/-- The number of a scope. -/
def code : Scope → Nat
  | all => 1
  | deptAndChild => 2
  | dept => 3
  | own => 4
  | custom => 5

/-- The canonical name of a scope. -/
def name : Scope → String
  | all => "ALL"
  | deptAndChild => "DEPT_AND_CHILD"
  | dept => "DEPT"
  | own => "SELF"
  | custom => "CUSTOM"

/-- The scope in words. -/
def description : Scope → String
  | all => "all data"
  | deptAndChild => "own department and below"
  | dept => "own department"
  | own => "own data only"
  | custom => "custom departments"

/-- The scope of a number (`DataScope::from_code`). -/
def ofCode (code : Nat) : Except Fault Scope :=
  match every.find? (·.code == code) with
  | some s => .ok s
  | none => .error (.invalidParameter "data_scope" s!"unknown code {code}")

/-- The scope of a name in any case, blanks around it apart (`DataScope::from_str`). -/
def ofName (text : String) : Except Fault Scope :=
  let name := String.ofList ((Text.trim text).toList.map Char.toUpper)
  match every.find? (·.name == name) with
  | some s => .ok s
  | none => .error (.invalidParameter "data_scope" s!"unknown scope {text}")

/-- A scope by its name. -/
def ofJson (v : Json) : Reading Scope := v.readName (fun s => [s.name]) every

end Scope

/-! ## Identifiers -/

/-- The identifier of a user or a department (`ScopeId`). -/
inductive Id where
  | int (n : Int64)
  | text (s : String)
  deriving DecidableEq

namespace Id

/-- The identifier as messages show it. -/
def shown : Id → String
  | int n => toString n.toInt
  | text s => s

/-- The identifier as an operand. -/
def toValue : Id → Value
  | int n => .int n
  | text s => .text s

/-- A whole number of sixty-four bits with its sign, or a string. -/
def ofJson : Json → Reading Id
  | .string s => .ok (text s)
  | .number (.whole n _ _) =>
    if n < 0x8000000000000000 then .ok (int (Int64.ofInt n)) else .error (.noForm "ScopeId")
  | _ => .error (.noForm "ScopeId")

/-- The identifier as JSON. -/
def toJson (id : Id) : Json := id.toValue.toJson

end Id

/-! ## Roles -/

/-- One role and what it may see (`RoleContext`). -/
structure Role where
  name : String
  scope : Scope
  /-- The departments of a role of its own. -/
  departments : List Id := []
  deriving DecidableEq

namespace Role

/-- The role with more departments. -/
def withDepartments (r : Role) (ids : List Id) : Role :=
  { r with departments := r.departments ++ ids }

/-- The parts of a role, as far as they have been read. -/
structure Parts where
  name : Option String := none
  scope : Option Scope := none
  departments : List Id := []

/-- The outline of a role. -/
def outline : Outline :=
  { name := "RoleContext", fields := ["role_id", "data_scope", "custom_dept_ids"] }

/-- Reads one part. -/
def Parts.set (parts : Parts) (field : String) (v : Json) : Reading Parts := do
  match field with
  | "role_id" => return { parts with name := some (← v.readString) }
  | "data_scope" => return { parts with scope := some (← Scope.ofJson v) }
  | _ => return { parts with departments := ← v.readList Id.ofJson }

/-- A role. -/
def ofJson (v : Json) : Reading Role := do
  let (parts, origin) ← outline.read Parts.set {} v
  let name ← outline.required origin "role_id" parts.name
  let scope ← outline.required origin "data_scope" parts.scope
  outline.noSurplus v
  return ⟨name, scope, parts.departments⟩

/-- The role as JSON. -/
def toJson (r : Role) : Json :=
  .object [("role_id", .string r.name), ("data_scope", .string r.scope.name),
    ("custom_dept_ids", .array (r.departments.map Id.toJson))]

end Role

/-! ## Sessions -/

/-- The acting user with their department and roles (`AuthContext`). -/
structure Session where
  user : Id
  department : Option Id := none
  roles : List Role := []
  deriving DecidableEq

namespace Session

/-- The session with one more role. -/
def withRole (s : Session) (r : Role) : Session := { s with roles := s.roles ++ [r] }

/-- The parts of a session, as far as they have been read. -/
structure Parts where
  user : Option Id := none
  department : Option Id := none
  roles : List Role := []

/-- The outline of a session. -/
def outline : Outline := { name := "AuthContext", fields := ["user_id", "dept_id", "roles"] }

/-- Reads one part. -/
def Parts.set (parts : Parts) (field : String) (v : Json) : Reading Parts := do
  match field with
  | "user_id" => return { parts with user := some (← Id.ofJson v) }
  | "dept_id" => return { parts with department := ← v.readOption Id.ofJson }
  | _ => return { parts with roles := ← v.readList Role.ofJson }

/-- A session. -/
def ofJson (v : Json) : Reading Session := do
  let (parts, origin) ← outline.read Parts.set {} v
  let user ← outline.required origin "user_id" parts.user
  outline.noSurplus v
  return ⟨user, parts.department, parts.roles⟩

/-- The session as JSON. -/
def toJson (s : Session) : Json :=
  .object [("user_id", s.user.toJson),
    ("dept_id", Json.ofOption Id.toJson s.department),
    ("roles", .array (s.roles.map Role.toJson))]

end Session
end RowFilter.Access
