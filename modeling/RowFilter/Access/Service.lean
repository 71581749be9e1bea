import RowFilter.Access.Resolve
import RowFilter.Criteria.Compile

/-!
# Scoped requests

A service answers requests for filters. What the caller asks for is compiled first, so a malformed
request fails before anyone is called; then the provider is asked who acts, and the scope of the
session is resolved and conjoined. No way leads around the scope.
-/

namespace RowFilter.Access

/-- How requests are answered (`DataScopeService`). -/
structure Service where
  resolver : Resolver
  registry : Registry := .standard

/-- What the provider answers when it is asked who acts (`AuthContextProvider::current`). -/
abbrev Provided := Except Fault Session

/-- A request: the scope alone, or the filter of criteria that may already be at fault. -/
inductive Request where
  | scope
  | filter (criteria : Except Fault (List Field))

/-- How often each collaborator was called. -/
structure Calls where
  provider : Nat := 0
  organization : Nat := 0

/-- Calls made one after another. -/
def Calls.add (a b : Calls) : Calls :=
  ⟨a.provider + b.provider, a.organization + b.organization⟩

namespace Service

/-- The rows that the acting user may see (`DataScopeService::scope_predicate`). -/
def scopePredicate (service : Service) (provided : Provided) : Except Fault Predicate := do
  service.resolver.resolve (← provided)

/-- What criteria ask for, conjoined with what the acting user may see
(`DataScopeService::scoped_filter`). -/
def scopedFilter (service : Service) (criteria : Except Fault (List Field))
    (provided : Provided) : Except Fault Predicate := do
  let asked ← build service.registry (← criteria)
  let allowed ← service.scopePredicate provided
  return assemble asked allowed

/-- The answer to a request. -/
def answer (service : Service) (provided : Provided) : Request → Except Fault Predicate
  | .scope => service.scopePredicate provided
  | .filter criteria => service.scopedFilter criteria provided

/-- The calls of finding out what the acting user may see. -/
def scopeCalls (service : Service) : Provided → Calls
  | .ok s => ⟨1, service.resolver.lookups s⟩
  | .error _ => ⟨1, 0⟩

/-- The calls of a request. -/
def calls (service : Service) (provided : Provided) : Request → Calls
  | .scope => service.scopeCalls provided
  | .filter criteria =>
    match criteria.bind (build service.registry) with
    | .ok _ => service.scopeCalls provided
    | .error _ => {}

/-- What the provider answers at its next call; the last answer is given from then on. -/
def nextProvided (sessions : List Provided) (call : Nat) : Provided :=
  match sessions[min call (sessions.length - 1)]? with
  | some p => p
  | none => .error (.collaborator "identity provider" "no session")

/-- The answers to requests in turn, each with the calls made up to it. -/
def serve (service : Service) (sessions : List Provided) (before : Calls) :
    List Request → List (Except Fault Predicate × Calls)
  | [] => []
  | request :: rest =>
    let provided := nextProvided sessions before.provider
    let after := before.add (service.calls provided request)
    (service.answer provided request, after) :: service.serve sessions after rest

/-- The service as a reader sees it. -/
def shown (service : Service) : String :=
  "DataScopeService \x7b resolver: " ++ service.resolver.shown ++ ", operators: "
    ++ toString service.registry.size ++ ", .. \x7d"

end Service
end RowFilter.Access
