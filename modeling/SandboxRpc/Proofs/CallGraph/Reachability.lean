import SandboxRpc.Proofs.CallGraph.Handles
import SandboxRpc.Proofs.CallGraph.Search

/-!
# Reachability and traces in a session

A session about one program and its partition may fill the tables, load edges by hand, before or
after, and put questions in any order; what is observed may differ from one use to the next. In
every state that it comes to there are edges that all answers go by (`exists_edges_runOn`). So the
answers can be set against the callees that the resolver tells for each call:

- `run_reaches`: a procedure is reached from another exactly over a chain of one or more calls;
- `run_traces`: a trace is a shortest chain from an entry point, and there is one if it can be;
- `run_searches_agree`: the two searches do not contradict each other.
-/

namespace SandboxRpc

open Inquiry

namespace Resolver

/-- The resolver after uses that are all about one program and partition. -/
def runOn (resolver : Resolver) (program : Program) (partition : Partition)
    (uses : List (Observation × Use)) : Resolver :=
  resolver.run (uses.map fun use => ({ program, partition, observed := use.1 }, use.2))

/-- A call of a context may invoke a procedure, going by what the resolver answers. -/
def Invokes (resolver : Resolver) (subject : Subject) (context : Context) (site : CallSite)
    (id : ProcedureId) : Prop :=
  site ∈ subject.partition.scope subject.program context ∧
    id ∈ answer resolver (callees subject site)

/-! ## Scopes -/

theorem knownScope_next (resolver : Resolver) (subject : Subject) (use : Use) :
    (use.next resolver subject).knownScope subject = resolver.knownScope subject := by
  cases use with
  | populate =>
    rw [Use.next, after_populate]
    rfl
  | loadObserved =>
    rw [Use.next, after_loadObserved]
    rfl
  | loadAnnotated =>
    rw [Use.next, after_loadAnnotated]
    rfl
  | callees site =>
    rw [Use.next, after_callees, after_populate]
    rfl
  | callers id =>
    rw [Use.next, after_callers, after_populate]
    rfl
  | isReachable source target context =>
    rw [Use.next, after_isReachable, (agree_after_scopeOf _ subject context).scopes, after_populate]
    rfl
  | callTrace target context =>
    rw [Use.next, after_callTrace, (agree_after_scopeOf _ subject context).scopes, after_populate]
    rfl

/-! ## States of a session -/

variable (program : Program) (partition : Partition) (usesAnnotations : Bool)
  (strategy : Option Strategy) (uses : List (Observation × Use)) (observed : Observation)

theorem about_session :
    ∀ use ∈ uses.map fun use : Observation × Use =>
      (({ program, partition, observed := use.1 } : Subject), use.2), use.1.program = program := by
  intro use member
  obtain ⟨_, _, rfl⟩ := List.mem_map.mp member
  rfl

theorem isConverse_runOn :
    ((fresh usesAnnotations strategy).runOn program partition uses).edges.IsConverse :=
  isConverse_run CallEdges.isConverse_empty _

theorem fitsDirect_runOn :
    FitsDirect program ((fresh usesAnnotations strategy).runOn program partition uses) :=
  (fitsDirect_fresh program usesAnnotations strategy).run (about_session program partition uses)

/-- No session brings in edges for calls that the program does not have. -/
theorem hasCall_runOn {site : CallSite} {id : ProcedureId}
    (known : id ∈
      ((fresh usesAnnotations strategy).runOn program partition uses).edges.calleesOf site) :
    program.hasCall site := by
  -- Of the procedures that edges lead to nothing is asked here.
  let ids (_ : ProcedureId) : Prop := True
  have stays : ∀ chosen ∈ (fresh usesAnnotations strategy).strategy, chosen.StaysIn program ids :=
    fun _ _ _ _ _ _ _ => trivial
  have within := (within_run stays CallEdges.within_empty fun use member =>
    ⟨about_session program partition uses use member,
      fun _ _ _ => trivial, fun _ _ => trivial, fun _ _ => trivial⟩).2
  have converse := isConverse_runOn program partition usesAnnotations strategy uses
  exact within.callers.targets id site ((converse site id).mp known)

theorem knownScope_runOn (context : Context) :
    ((fresh usesAnnotations strategy).runOn program partition uses).knownScope
      { program, partition, observed } context = partition.scope program context := by
  refine preserves_run
    (fun resolver => resolver.knownScope { program, partition, observed } context =
      partition.scope program context) ?_ ?_
  · intro use member resolver known
    obtain ⟨⟨shown, asked⟩, _, rfl⟩ := List.mem_map.mp member
    -- Scopes do not depend on what was observed.
    have kept := knownScope_next resolver { program, partition, observed := shown } asked
    exact (congrFun kept context).trans known
  · rfl

theorem after_populate_runOn :
    after ((fresh usesAnnotations strategy).runOn program partition uses)
        (populate { program, partition, observed }) =
      (fresh usesAnnotations strategy).runOn program partition
        (uses ++ [(observed, .populate)]) := by
  simp [runOn, run, Use.next]

/-! ## Edges to go by -/

/-- All answers about a subject are read off these edges. -/
structure GoesBy (resolver : Resolver) (subject : Subject) (edges : CallEdges) : Prop where
  converse : edges.IsConverse
  present : ∀ site, ∀ id ∈ edges.calleesOf site, subject.program.hasCall site
  callees : ∀ site id,
    id ∈ answer resolver (callees subject site) ↔ id ∈ edges.calleesOf site
  isReachable : ∀ source target context,
    answer resolver (isReachable subject source target context) =
      edges.isReachable subject.program (subject.partition.scope subject.program context) source
        target
  callTrace : ∀ target context,
    answer resolver (callTrace subject target context) =
      edges.callTrace (subject.partition.scope subject.program context)
        (subject.partition.entryPointsOf context) target

theorem GoesBy.invokes_eq {resolver : Resolver} {subject : Subject} {edges : CallEdges}
    (goesBy : resolver.GoesBy subject edges) (context : Context) :
    resolver.Invokes subject context =
      edges.Invokes (subject.partition.scope subject.program context) := by
  funext site id
  exact propext (and_congr_right fun _ => goesBy.callees site id)

/-- In every state that a session comes to, the answers go by the edges of the tables once they are
filled. -/
theorem goesBy_filledEdges :
    ((fresh usesAnnotations strategy).runOn program partition uses).GoesBy
      { program, partition, observed }
      (((fresh usesAnnotations strategy).runOn program partition uses).filledEdges
        { program, partition, observed }) := by
  let subject : Subject := { program, partition, observed }
  let reached := (fresh usesAnnotations strategy).runOn program partition uses
  have scopes (context : Context) : reached.knownScope subject context =
      partition.scope program context :=
    knownScope_runOn program partition usesAnnotations strategy uses observed context
  -- To fill the tables is one more use, so it leads to such a state again.
  have filled : after reached (populate subject) = _ :=
    after_populate_runOn program partition usesAnnotations strategy uses observed
  have edges : reached.filledEdges subject = (after reached (populate subject)).edges := by
    rw [after_populate]
  refine ⟨?_, ?_, ?_, ?_, ?_⟩
  · rw [edges, filled]
    exact isConverse_runOn program partition usesAnnotations strategy _
  · intro site id known
    rw [edges, filled] at known
    exact hasCall_runOn program partition usesAnnotations strategy _ known
  · intro site id
    have same : answer reached (callees subject site) =
        answer (after reached (populate subject)) (callees subject site) :=
      (Steady.callees site).same (agree_after_populate reached subject).symm
    have fits : FitsDirect program (after reached (populate subject)) :=
      filled ▸ fitsDirect_runOn program partition usesAnnotations strategy _
    rw [edges, same]
    exact mem_answer_callees fits (populated_after_populate reached subject) rfl
  · intro source target context
    rw [answer_isReachable, scopes]
  · intro target context
    rw [answer_callTrace, scopes]

theorem exists_edges_runOn :
    ∃ edges, ((fresh usesAnnotations strategy).runOn program partition uses).GoesBy
      { program, partition, observed } edges :=
  ⟨_, goesBy_filledEdges program partition usesAnnotations strategy uses observed⟩

/-! ## Answers -/

/-- What is said to be reachable is what one or more calls lead to. In particular, a procedure is
said to reach itself if it lies on a cycle of calls, and only then. -/
theorem run_reaches (source target : ProcedureId) (context : Context) :
    let subject : Subject := { program, partition, observed }
    let reached := (fresh usesAnnotations strategy).runOn program partition uses
    (answer reached (isReachable subject source target context) = true ↔
      ∃ chain, chain ≠ [] ∧ Leads (reached.Invokes subject context) source chain target) ∧
    (answer reached (isReachable subject source source context) = true ↔
      ∃ cycle : Cycle CallSite,
        cycle.Chain (fun site next => reached.Invokes subject context site next.caller) ∧
        ∃ site ∈ cycle, site.caller = source) := by
  intro subject reached
  obtain ⟨edges, goesBy⟩ :=
    exists_edges_runOn program partition usesAnnotations strategy uses observed
  -- A cycle is a chain back to the source, so both parts say the same of the edges.
  rw [← exists_leads_self_iff, goesBy.invokes_eq, goesBy.isReachable, goesBy.isReachable]
  exact ⟨CallEdges.isReachable_iff goesBy.present, CallEdges.isReachable_iff goesBy.present⟩

/-- A trace is a shortest chain from an entry point of the context, and there is none only if the
procedure is an entry point itself or no chain leads to it from any. -/
theorem run_traces (target : ProcedureId) (context : Context) :
    let subject : Subject := { program, partition, observed }
    let reached := (fresh usesAnnotations strategy).runOn program partition uses
    let entryPoints := partition.entryPointsOf context
    let trace := answer reached (callTrace subject target context)
    (trace ≠ [] → IsTrace (reached.Invokes subject context) entryPoints target trace) ∧
    (trace = [] ↔ target ∈ entryPoints ∨
      ¬ ∃ entry ∈ entryPoints, ∃ chain,
        Leads (reached.Invokes subject context) entry chain target) := by
  intro subject reached entryPoints trace
  obtain ⟨edges, goesBy⟩ :=
    exists_edges_runOn program partition usesAnnotations strategy uses observed
  rw [goesBy.invokes_eq, show trace = _ from goesBy.callTrace target context]
  exact ⟨CallEdges.isTrace_callTrace goesBy.converse,
    CallEdges.callTrace_eq_nil_iff goesBy.converse⟩

/-- The way leads through a recursive procedure and over an edge that was loaded before the first
query, when it was still observed. -/
theorem run_traces_past_recursion :
    let program : Program := { procedures := #[
      { name := "main", arity := none, calls := #[⟨.direct ⟨1⟩, []⟩] },
      { name := "step", arity := none, calls := #[⟨.direct ⟨1⟩, []⟩, ⟨.indirect, []⟩] },
      { name := "work", arity := none, calls := #[⟨.direct ⟨3⟩, []⟩] },
      { name := "log", arity := none }] }
    let partition : Partition :=
      { privileged := [⟨0⟩, ⟨1⟩, ⟨2⟩], privilegedEntryPoints := [⟨0⟩] }
    let uses : List (Observation × Use) :=
      [(.edges "trace" (pure [(⟨⟨1⟩, 1⟩, ⟨2⟩)]), .loadObserved), (.unconfigured, .callers ⟨3⟩)]
    let subject : Subject := { program, partition }
    let reached := (fresh true none).runOn program partition uses
    let trace := answer reached (callTrace subject ⟨3⟩ .privileged)
    trace = [⟨⟨2⟩, 0⟩, ⟨⟨1⟩, 1⟩, ⟨⟨0⟩, 0⟩] ∧
      IsTrace (reached.Invokes subject .privileged) [⟨0⟩] ⟨3⟩ trace := by
  intro program partition uses subject reached trace
  have found : trace = [⟨⟨2⟩, 0⟩, ⟨⟨1⟩, 1⟩, ⟨⟨0⟩, 0⟩] := by decide +revert +kernel
  have some : trace ≠ [] := by
    rw [found]
    exact List.cons_ne_nil _ _
  exact ⟨found, (run_traces program partition true none uses .unconfigured ⟨3⟩ .privileged).1 some⟩

/-- There is a trace exactly if the procedure is no entry point but is reached from one, and the
trace ends at one from which it is reached. -/
theorem run_searches_agree (target : ProcedureId) (context : Context) :
    let subject : Subject := { program, partition, observed }
    let reached := (fresh usesAnnotations strategy).runOn program partition uses
    let entryPoints := partition.entryPointsOf context
    let reaches entry := answer reached (isReachable subject entry target context) = true
    let trace := answer reached (callTrace subject target context)
    (trace ≠ [] ↔ target ∉ entryPoints ∧ ∃ entry ∈ entryPoints, reaches entry) ∧
    ∀ last, trace.getLast? = some last → last.caller ∈ entryPoints ∧ reaches last.caller := by
  intro subject reached entryPoints reaches trace
  obtain ⟨edges, goesBy⟩ :=
    exists_edges_runOn program partition usesAnnotations strategy uses observed
  have same (entry : ProcedureId) : answer reached (isReachable subject entry target context) =
      edges.isReachable program (partition.scope program context) entry target :=
    goesBy.isReachable entry target context
  simp only [reaches, same, show trace = _ from goesBy.callTrace target context]
  exact ⟨CallEdges.callTrace_ne_nil_iff goesBy.converse goesBy.present,
    fun _ => CallEdges.isReachable_of_callTrace goesBy.converse goesBy.present⟩

/-- The strategy takes all edges away, but one is loaded again afterwards. -/
theorem run_searches_agree_after_load :
    let program : Program := { procedures := #[
      { name := "main", arity := none, calls := #[⟨.indirect, []⟩, ⟨.indirect, []⟩] },
      { name := "work", arity := none }] }
    let partition := (Partition.addSandbox {} program "worker" [⟨0⟩] [⟨0⟩]).2
    let observed : Observation := .edges "trace" (pure [(⟨⟨0⟩, 1⟩, ⟨1⟩)])
    let reached := (fresh true (some (Strategy.always ∅))).runOn program partition
      [(observed, .populate), (observed, .loadObserved)]
    let subject : Subject := { program, partition, observed }
    let trace := answer reached (callTrace subject ⟨1⟩ (.sandboxed ⟨0⟩))
    trace.getLast? = some ⟨⟨0⟩, 1⟩ ∧
      ⟨0⟩ ∈ partition.entryPointsOf (.sandboxed ⟨0⟩) ∧
        answer reached (isReachable subject ⟨0⟩ ⟨1⟩ (.sandboxed ⟨0⟩)) = true := by
  intro program partition observed reached subject trace
  have ends : trace.getLast? = some ⟨⟨0⟩, 1⟩ := by decide +revert +kernel
  exact ⟨ends, (run_searches_agree program partition true (some (Strategy.always ∅))
    [(observed, .populate), (observed, .loadObserved)] observed ⟨1⟩ (.sandboxed ⟨0⟩)).2 _ ends⟩

end Resolver

end SandboxRpc
