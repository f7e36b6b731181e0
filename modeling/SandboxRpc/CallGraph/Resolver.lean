import SandboxRpc.CallGraph.Search
import SandboxRpc.CallGraph.Strategy
import SandboxRpc.Diagnostic.Logged

/-!
# The call-graph resolver

A `Resolver` answers which procedures a call may invoke, who may call a procedure, and what is
reachable within a context. Its edges come from three places: direct calls of the program, pairs
observed in a dynamic trace, and annotations on indirect calls. A `Strategy`, if there is one, then
has the last word on every indirect call.

The resolver fills its tables on the first query that needs them (`populate`) and leaves them as
they are afterwards; the scope of a context is likewise computed once. Queries therefore run in
`Inquiry`, which carries the resolver along and collects events.
-/

namespace SandboxRpc

/-- What is known of the runs of a program. -/
inductive Observation where
  /-- There is no dynamic trace to look at. -/
  | unconfigured
  /-- A trace could not be used. -/
  | failed (source : String) (cause : Error)
  /-- The edges that a trace showed, and what was amiss with it. -/
  | edges (source : String) (found : Logged (List CallEdge))
deriving Repr

/-- What a resolver is asked about: a program, its partition, and what was observed of its runs. -/
structure Subject where
  program : Program
  partition : Partition
  observed : Observation := .unconfigured

/-- The edges of the direct calls. -/
def Program.directEdges (program : Program) : List CallEdge :=
  program.callSites.filterMap fun site =>
    match program.targetOf site with
    | .direct callee => some (site, callee)
    | .indirect => none

namespace CallEdges

/-- What there is to say about an extra edge, unless it is for an indirect call of the program. -/
def mergeEvent? (program : Program) (origin : EdgeOrigin) (edge : CallEdge) : Option Event :=
  if program.hasCall edge.1 then
    if program.targetOf edge.1 = .indirect then none
    else some (.note (.directCallIgnored origin edge.1))
  else some (.warning (.edgeDropped origin edge.1))

/-- Adds extra edges for indirect calls. An edge from a direct call is passed over, since the
program knows better; one from a call site that the program lacks is passed over with a warning. -/
def merge (edges : CallEdges) (program : Program) (origin : EdgeOrigin) (extra : List CallEdge) :
    Logged CallEdges where
  value := edges.insertAll <|
    extra.filter fun edge => program.hasCall edge.1 ∧ program.targetOf edge.1 = .indirect
  events := extra.filterMap (mergeEvent? program origin)

/-- The indirect calls that a strategy gives other targets than were found, with these targets. -/
def refinements (edges : CallEdges) (program : Program) (strategy : Strategy) :
    List (CallSite × ProcedureSet) :=
  program.indirectCalls.filterMap fun site =>
    let found := edges.calleesOf site
    let refined := strategy program site found
    if refined.toList = found.toList then none else some (site, refined)

theorem mem_refinements {edges : CallEdges} {program : Program} {strategy : Strategy}
    {entry : CallSite × ProcedureSet} :
    entry ∈ edges.refinements program strategy ↔
      entry.1 ∈ program.indirectCalls ∧
        entry.2 = strategy program entry.1 (edges.calleesOf entry.1) ∧
        entry.2 ≠ edges.calleesOf entry.1 := by
  obtain ⟨site, targets⟩ := entry
  simp only [refinements, List.mem_filterMap, Std.ExtTreeSet.toList_inj]
  grind

/-- Lets a strategy decide every indirect call; it sees the edges as they were before. -/
def refine (edges : CallEdges) (program : Program) (strategy : Strategy) : Logged CallEdges :=
  let refinements := edges.refinements program strategy
  { value := refinements.foldl (fun refined entry => refined.replace entry.1 entry.2) edges
    events := refinements.map fun entry => .note (.callRefined entry.1 entry.2.size) }

end CallEdges

structure Resolver where
  /-- Whether annotations of the program count. -/
  usesAnnotations : Bool := true
  strategy : Option Strategy := none
  populated : Bool := false
  edges : CallEdges := ∅
  /-- The scopes of the contexts that were asked about. -/
  scopes : Std.ExtTreeMap Context CallSiteSet := ∅

instance : Inhabited Resolver := ⟨{}⟩

/-- A question to a resolver, which may learn from it and report events. -/
abbrev Inquiry := StateT Resolver Logged

namespace Resolver

/-! ## Filling the tables -/

/-- Adds extra edges and gives the number of those that are new. -/
def mergeEdges (program : Program) (origin : EdgeOrigin) (extra : List CallEdge) : Inquiry Nat := do
  let resolver ← get
  let edges ← resolver.edges.merge program origin extra
  set { resolver with edges }
  return edges.size - resolver.edges.size

/-- Adds the edges that were observed. -/
def loadObserved (subject : Subject) : Inquiry Unit := do
  match subject.observed with
  | .unconfigured => Logged.note .traceUnconfigured
  | .failed source cause => Logged.warn (.traceIgnored source cause)
  | .edges source found =>
    let added ← mergeEdges subject.program .trace (← found)
    Logged.note (.traceMerged source added)

/-- Adds the edges that annotations declare. -/
def loadAnnotated (subject : Subject) : Inquiry Unit := do
  let added ← mergeEdges subject.program .declared subject.program.annotatedEdges
  Logged.note (.annotationsMerged added)

/-- Adds the edges of the direct calls. Indirect calls get no entries of their own before there are
targets for them, and whether they have such entries is not to be seen by any query. -/
def loadDirect (subject : Subject) : Inquiry Unit :=
  modify fun resolver =>
    { resolver with edges := resolver.edges.insertAll subject.program.directEdges }

/-- Hands the indirect calls to the strategy, if there is one. -/
def applyStrategy (subject : Subject) : Inquiry Unit := do
  let resolver ← get
  if let some strategy := resolver.strategy then
    let edges ← resolver.edges.refine subject.program strategy
    set { resolver with edges }

/-- Fills the tables, unless they are filled. -/
def populate (subject : Subject) : Inquiry Unit := do
  let resolver ← get
  unless resolver.populated do
    loadDirect subject
    let directEdges := (← get).edges.size
    loadObserved subject
    if resolver.usesAnnotations then loadAnnotated subject
    -- The strategy comes last, so that it sees what all other sources have found.
    applyStrategy subject
    modify ({ · with populated := true })
    Logged.note <| .callGraphPopulated directEdges (← get).edges.size
      subject.program.indirectCalls.length

/-- The scope of a context, as it was when it was first asked for. -/
def scopeOf (subject : Subject) (context : Context) : Inquiry CallSiteSet := do
  let resolver ← get
  match resolver.scopes[context]? with
  | some scope => return scope
  | none =>
    let scope := subject.partition.scope subject.program context
    set { resolver with scopes := resolver.scopes.insert context scope }
    return scope

/-! ## Queries -/

/-- The procedures that a call may invoke, in ascending order. -/
def callees (subject : Subject) (site : CallSite) : Inquiry (List ProcedureId) := do
  populate subject
  match subject.program.targetOf site with
  | .direct callee => return [callee]
  | .indirect => return ((← get).edges.calleesOf site).toList

/-- The calls that may invoke a procedure, in ascending order. -/
def callers (subject : Subject) (id : ProcedureId) : Inquiry (List CallSite) := do
  populate subject
  return ((← get).edges.callersOf id).toList

/-- Whether one or more calls in a context lead from `source` to `target`. -/
def isReachable (subject : Subject) (source target : ProcedureId) (context : Context) :
    Inquiry Bool := do
  populate subject
  let scope ← scopeOf subject context
  return (← get).edges.isReachable subject.program scope source target

/-- A shortest chain of calls from an entry point of a context to a procedure, innermost first. -/
def callTrace (subject : Subject) (target : ProcedureId) (context : Context) :
    Inquiry (List CallSite) := do
  populate subject
  let scope ← scopeOf subject context
  return (← get).edges.callTrace scope (subject.partition.entryPointsOf context) target

/-- The indirect calls of a program with the targets found so far. -/
def indirectTargets (resolver : Resolver) (program : Program) :
    List (CallSite × List ProcedureId) :=
  program.indirectCalls.map fun site => (site, (resolver.edges.calleesOf site).toList)

end Resolver

end SandboxRpc
