import RowFilter.Access.Service
import RowFilter.Journal.Event

/-!
# Narration

The events of compiling criteria, resolving a session and answering requests. They are told beside
the work and never change it: each function here reads off what the function it follows has done. A
field or role that fails ends its part of the story, since nothing after it is looked at. Fields
that are skipped are told only while debugging is on.
-/

namespace RowFilter.Journal

/-! ## Criteria -/

/-- A field that takes no part in the filter. -/
def skipped (f : Field) : Event :=
  ⟨.trace, .criteria, "skipping empty criteria field", [("field", f.spec.name)]⟩

/-- The fields that take no part in the filter, while debugging is on. -/
def ofSkipped (env : Environment) (fields : List Field) : List Event :=
  if isDebug env then (fields.filter fun f => !f.isApplicable).map skipped else []

/-- A field that became a predicate. -/
def compiled (f : Field) (p : Predicate) : Event :=
  ⟨.debug, .compiler, "compiled criteria field",
    [("field", f.spec.name), ("operator", f.spec.operator.name), ("predicate", p.shown)]⟩

/-- A field that could not become a predicate. -/
def rejected (f : Field) (fault : Fault) : Event :=
  ⟨.warn, .compiler, "rejected criteria field",
    [("field", f.spec.name), ("operator", f.spec.operator.name), ("code", fault.code.text)]⟩

/-- Criteria that became a predicate. -/
def built (count : Nat) : Event :=
  ⟨.debug, .assembler, "built criteria predicate", [("fields", toString count)]⟩

/-- Compiling fields in turn, after some others, up to the first that fails. -/
def ofCompiled (registry : Registry) (before : Nat) : List Field → List Event
  | [] => [built before]
  | f :: fs =>
    match f.compile registry with
    | .ok p => compiled f p :: ofCompiled registry (before + 1) fs
    | .error fault => [rejected f fault]

/-- Building a predicate from criteria. -/
def ofBuild (env : Environment) (registry : Registry) (fields : List Field) : List Event :=
  ofSkipped env fields ++ ofCompiled registry 0 (applicable fields)

/-- Conjoining what is asked for with what is allowed. -/
def assembled (filter : Predicate) : Event :=
  ⟨.debug, .assembler, "assembled scoped filter", [("filter", filter.shown)]⟩

/-! ## Sessions -/

/-- A role that could not be resolved. -/
def refused (r : Access.Role) (fault : Fault) : Event :=
  ⟨.warn, .resolver, "rejected role grant",
    [("role", r.name), ("scope", r.scope.name), ("code", fault.code.text)]⟩

/-- A session that has been resolved. -/
def resolved (s : Access.Session) (scope : Predicate) : Event :=
  ⟨.debug, .resolver, "resolved data scope",
    [("user", s.user.shown), ("roles", toString s.roles.length), ("scope", scope.shown)]⟩

/-- The first of some roles that cannot be resolved. -/
def firstRefused (resolver : Access.Resolver) (s : Access.Session) :
    List Access.Role → List Event
  | [] => []
  | r :: rs =>
    match resolver.resolveRole s r with
    | .ok _ => firstRefused resolver s rs
    | .error fault => [refused r fault]

/-- Resolving a session. -/
def ofResolve (resolver : Access.Resolver) (s : Access.Session) : List Event :=
  match resolver.resolve s with
  | .ok scope => [resolved s scope]
  | .error _ => firstRefused resolver s s.roles

/-! ## Requests -/

/-- Finding out what the acting user may see. -/
def ofScope (service : Access.Service) : Access.Provided → List Event
  | .ok s => ofResolve service.resolver s
  | .error _ => []

/-- Answering a request. -/
def ofAnswer (env : Environment) (service : Access.Service) (provided : Access.Provided) :
    Access.Request → List Event
  | .scope => ofScope service provided
  | .filter (.error _) => []
  | .filter (.ok fields) =>
    ofBuild env service.registry fields ++
      match build service.registry fields with
      | .error _ => []
      | .ok _ =>
        ofScope service provided ++
          match service.scopedFilter (.ok fields) provided with
          | .ok filter => [assembled filter]
          | .error _ => []

/-- Answering requests in turn. -/
def ofServe (env : Environment) (service : Access.Service) (sessions : List Access.Provided)
    (before : Access.Calls) : List Access.Request → List Event
  | [] => []
  | request :: rest =>
    let provided := Access.Service.nextProvided sessions before.provider
    ofAnswer env service provided request ++
      ofServe env service sessions (before.add (service.calls provided request)) rest

end RowFilter.Journal
