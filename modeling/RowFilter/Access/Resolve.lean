import RowFilter.Access.Hierarchy
import RowFilter.Predicate
import RowFilter.Text.Quoted

/-!
# Resolving scopes

Each role of a session becomes a predicate on the columns of owner and department, and holding any
one role is enough: the predicates are combined by a minimal disjunction. One role that cannot be
resolved fails the whole session, whatever the others would allow.
-/

namespace RowFilter.Access

/-! ## Columns -/

/-- The columns that hold the owner and the department of a row (`ScopeColumns`). -/
structure Columns where
  owner : String := "create_user"
  dept : String := "dept_id"
  deriving DecidableEq

/-- Both columns qualified by the alias of their table (`ScopeColumns::with_alias`). -/
def Columns.withAlias (c : Columns) (tableAlias : String) : Columns :=
  ⟨tableAlias ++ "." ++ c.owner, tableAlias ++ "." ++ c.dept⟩

/-! ## Resolvers -/

/-- How the departments below one are found out (`OrgHierarchy::expand_subtree`). -/
abbrev Organization := Id → Except Fault (List Id)

/-- An organization without any subordinate departments. -/
def Organization.flat : Organization := fun id => .ok [id]

/-- An organization that a hierarchy describes. -/
def Organization.ofHierarchy (h : Hierarchy) : Organization := fun id => .ok (h.subtree id)

/-- What is needed to resolve a session (`ScopeResolver`). -/
structure Resolver where
  columns : Columns := {}
  organization : Organization := Organization.flat

namespace Resolver

/-- The department of the acting user, which the scope of a role needs (`acting_dept`). -/
def actingDepartment (s : Session) (r : Role) : Except Fault Id :=
  match s.department with
  | some id => .ok id
  | none => .error (.missingScopeData r.name
      s!"{r.scope.name} scope but user {s.user.shown} has no department")

/-- Membership of the department in a list of them, each counted once. -/
def inDepartments (resolver : Resolver) (ids : List Id) : Predicate :=
  .comparison (.isIn resolver.columns.dept (ids.eraseDups.map Id.toValue))

/-- The rows that one role allows (`ScopeResolver::resolve_role`). -/
def resolveRole (resolver : Resolver) (s : Session) (r : Role) : Except Fault Predicate :=
  match r.scope with
  | .all => .ok .always
  | .own => .ok (.comparison (.equal resolver.columns.owner s.user.toValue))
  | .dept => do
    let id ← actingDepartment s r
    return .comparison (.equal resolver.columns.dept id.toValue)
  | .deptAndChild => do
    let id ← actingDepartment s r
    let below ← resolver.organization id
    return resolver.inDepartments (id :: below)
  | .custom =>
    if r.departments.isEmpty then
      .error (.missingScopeData r.name "CUSTOM scope without departments")
    else .ok (resolver.inDepartments r.departments)

/-- The rows that a session allows (`ScopeResolver::resolve`); the first role that fails decides. -/
def resolve (resolver : Resolver) (s : Session) : Except Fault Predicate := do
  let perRole ← s.roles.mapM (resolver.resolveRole s)
  return .any perRole.eraseDups

/-! ## Lookups -/

/-- Resolving the role asks the organization. -/
def asks (s : Session) (r : Role) : Bool := r.scope = .deptAndChild && s.department.isSome

/-- How often resolving roles in turn, up to the first that fails, asks the organization. -/
def lookupsOf (resolver : Resolver) (s : Session) : List Role → Nat
  | [] => 0
  | r :: rs =>
    (if asks s r then 1 else 0) +
      match resolver.resolveRole s r with
      | .ok _ => resolver.lookupsOf s rs
      | .error _ => 0

/-- How often resolving a session asks the organization. -/
def lookups (resolver : Resolver) (s : Session) : Nat := resolver.lookupsOf s s.roles

/-- The resolver as a reader sees it. -/
def shown (resolver : Resolver) : String :=
  "ScopeResolver \x7b columns: ScopeColumns \x7b owner: "
    ++ Text.Quoted.shown resolver.columns.owner
    ++ ", dept: " ++ Text.Quoted.shown resolver.columns.dept ++ " \x7d, .. \x7d"

end Resolver
end RowFilter.Access
