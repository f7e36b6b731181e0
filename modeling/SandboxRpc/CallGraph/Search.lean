import SandboxRpc.CallGraph.Edges
import SandboxRpc.CallGraph.Exploration

/-!
# Reachability and call traces

Two questions about call edges within a scope, the set of call sites that count:

- `isReachable`: does a chain of one or more calls lead from one procedure to another? The search
  goes down, over the calls that the program has.
- `callTrace`: which is a shortest chain of calls from an entry point to a procedure? The search
  goes up from the procedure, over the recorded callers.
-/

namespace SandboxRpc

namespace CallEdges

/-- The steps from a procedure down to what its calls within the scope may invoke. -/
def stepsDown (edges : CallEdges) (program : Program) (scope : CallSiteSet)
    (procedure : ProcedureId) : List Step :=
  ((program.callsOf procedure).filter scope.contains).flatMap fun site =>
    (edges.calleesOf site).toList.map (Step.mk site)

/-- The steps from a procedure up to the callers that may invoke it from within the scope. -/
def stepsUp (edges : CallEdges) (scope : CallSiteSet) (procedure : ProcedureId) : List Step :=
  ((edges.callersOf procedure).toList.filter scope.contains).map fun site =>
    { site, destination := site.caller }

/-- Whether one or more calls within the scope lead from `source` to `target`. -/
def isReachable (edges : CallEdges) (program : Program) (scope : CallSiteSet)
    (source target : ProcedureId) : Bool :=
  let steps := edges.stepsDown program scope
  -- Only a step counts as arrival, so a procedure reaches itself just over a cycle.
  (exploreFrom steps source edges.allCallees).any fun visit =>
    (steps visit.procedure).any (·.destination = target)

/-- A shortest chain of calls within the scope from one of `entryPoints` down to `target`, the
innermost call first. It is empty if `target` is an entry point, and if no chain exists. -/
def callTrace (edges : CallEdges) (scope : CallSiteSet) (entryPoints : List ProcedureId)
    (target : ProcedureId) : List CallSite :=
  let visits := exploreFrom (edges.stepsUp scope) target edges.allCallers
  -- Visits come in order of distance, so the first entry point is a nearest one.
  match visits.find? (·.procedure ∈ entryPoints) with
  | some visit => visit.path.reverse
  | none => []

end CallEdges

end SandboxRpc
