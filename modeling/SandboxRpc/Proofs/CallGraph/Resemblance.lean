import SandboxRpc.CallGraph.RecordedTrace
import SandboxRpc.Proofs.CallGraph.Transparency
import SandboxRpc.Proofs.Program.Resemblance

/-!
# Programs that a resolver takes for the same

A resolver looks at a program through its questions only, and a strategy is the one thing in it that
might look further. If the strategy decides alike for two programs that answer alike, so does the
resolver: `Inquiry.RunsAs` says that two inquiries give the same answer and the same events, and
leave the same resolver.
-/

namespace SandboxRpc

/-! ## Edges -/

namespace Program.AnswersAs

variable {first second : Program} (alike : first.AnswersAs second)
include alike

theorem directEdges : first.directEdges = second.directEdges := by
  rw [Program.directEdges, Program.directEdges, alike.callSites, alike.targetOf]

theorem decide_addressTaken : Strategy.addressTaken first = Strategy.addressTaken second := by
  funext site found
  have admits (count : Nat) : Strategy.admits first count = Strategy.admits second count := by
    funext id
    rw [Strategy.admits, Strategy.admits, alike.arityOf]
  rw [Strategy.addressTaken, Strategy.addressTaken, alike.addressTaken, alike.argumentCount, admits]

theorem merge (edges : CallEdges) (origin : EdgeOrigin) (extra : List CallEdge) :
    edges.merge first origin extra = edges.merge second origin extra := by
  have events : CallEdges.mergeEvent? first origin = CallEdges.mergeEvent? second origin := by
    funext edge
    rw [CallEdges.mergeEvent?, CallEdges.mergeEvent?, alike.hasCall, alike.targetOf]
  rw [CallEdges.merge, CallEdges.merge, events, alike.hasCall, alike.targetOf]

theorem refine (edges : CallEdges) {strategy : Strategy}
    (decides : strategy first = strategy second) :
    edges.refine first strategy = edges.refine second strategy := by
  have refinements : edges.refinements first strategy = edges.refinements second strategy := by
    rw [CallEdges.refinements, CallEdges.refinements, alike.indirectCalls, decides]
  rw [CallEdges.refine, CallEdges.refine, refinements]

theorem edges (entries : List TraceEntry) :
    TraceEntry.edges first entries = TraceEntry.edges second entries := by
  have edge : TraceEntry.edge? first = TraceEntry.edge? second := by
    funext entry
    rw [TraceEntry.edge?, TraceEntry.edge?, alike.find?, alike.hasCall]
  rw [TraceEntry.edges, TraceEntry.edges, edge]

theorem observe {m : Type → Type} [Monad m] [MonadFiles m] (source : TraceSource) :
    (source.observe first : m Observation) = source.observe second := by
  cases source with
  | file path =>
    rw [TraceSource.observe, TraceSource.observe, TraceSource.loadFile, TraceSource.loadFile]
    simp only [alike.edges]
  | edges known => rfl

theorem isReachable (edges : CallEdges) :
    edges.isReachable first = edges.isReachable second := by
  have steps : edges.stepsDown first = edges.stepsDown second := by
    funext scope procedure
    rw [CallEdges.stepsDown, CallEdges.stepsDown, alike.callsOf]
  funext scope source target
  rw [CallEdges.isReachable, CallEdges.isReachable, steps]

end Program.AnswersAs

/-! ## Inquiries -/

/-- What comes after a result depends on nothing but its value. -/
theorem Logged.bind_eq_of_value {α β : Type} {result : Logged α} {next next' : α → Logged β}
    (same : next result.value = next' result.value) : result >>= next = result >>= next' :=
  Logged.ext (congrArg (·.value) same) (congrArg (result.events ++ ·.events) same)

/-- Whatever strategy a resolver has, it decides alike for two programs. -/
def Resolver.DecidesAlike (first second : Program) (resolver : Resolver) : Prop :=
  ∀ chosen ∈ resolver.strategy, chosen first = chosen second

namespace Inquiry

variable {α β : Type} {first second : Program}

/-- Two inquiries run the same on every resolver that decides alike, and keep its strategy. -/
structure RunsAs (first second : Program) (here there : Inquiry α) : Prop where
  same : ∀ {resolver : Resolver}, resolver.DecidesAlike first second →
    here.run resolver = there.run resolver
  kept : ∀ resolver : Resolver, (after resolver here).strategy = resolver.strategy

namespace RunsAs

theorem of_kept {inquiry : Inquiry α}
    (kept : ∀ resolver : Resolver, (after resolver inquiry).strategy = resolver.strategy) :
    RunsAs first second inquiry inquiry where
  same _ := rfl
  kept := kept

theorem pure (value : α) : RunsAs first second (pure value) (pure value) :=
  of_kept fun _ => rfl

theorem bind {here there : Inquiry α} {next next' : α → Inquiry β}
    (now : RunsAs first second here there)
    (later : ∀ value, RunsAs first second (next value) (next' value)) :
    RunsAs first second (here >>= next) (there >>= next') where
  same {resolver} decides := by
    -- The first inquiry may have changed the resolver, but the strategy is the one it was.
    have still : (after resolver here).DecidesAlike first second := by
      rw [Resolver.DecidesAlike, now.kept]
      exact decides
    have rest := (later (answer resolver here)).same still
    rw [StateT.run_bind, StateT.run_bind, ← now.same decides]
    exact Logged.bind_eq_of_value rest
  kept resolver := by
    rw [after_bind, (later _).kept, now.kept]

theorem map {here there : Inquiry α} (alike : RunsAs first second here there) (f : α → β) :
    RunsAs first second (f <$> here) (f <$> there) where
  same decides := by
    rw [StateT.run_map, StateT.run_map, alike.same decides]
  kept := alike.kept

theorem mapM {step step' : α → Inquiry β}
    (each : ∀ item, RunsAs first second (step item) (step' item)) (items : List α) :
    RunsAs first second (items.mapM step) (items.mapM step') := by
  induction items with
  | nil => exact pure []
  | cons item items ih =>
    rw [List.mapM_cons, List.mapM_cons]
    exact (each item).bind fun value => ih.bind fun rest => pure (value :: rest)

end RunsAs

end Inquiry

open Inquiry

/-! ## Questions -/

/-- Two subjects are the same but for programs that answer alike. -/
structure Subject.AnswersAs (here there : Subject) : Prop where
  program : here.program.AnswersAs there.program
  partition : here.partition = there.partition
  observed : here.observed = there.observed

namespace Subject.AnswersAs

variable {here there : Subject} (alike : here.AnswersAs there)
include alike

theorem mergeEdges : Resolver.mergeEdges here.program = Resolver.mergeEdges there.program := by
  funext origin extra
  simp only [Resolver.mergeEdges, alike.program.merge]

theorem loadObserved : Resolver.loadObserved here = Resolver.loadObserved there := by
  rw [Resolver.loadObserved, Resolver.loadObserved, alike.observed, alike.mergeEdges]

theorem loadAnnotated : Resolver.loadAnnotated here = Resolver.loadAnnotated there := by
  rw [Resolver.loadAnnotated, Resolver.loadAnnotated, alike.mergeEdges,
    alike.program.annotatedEdges]

theorem loadDirect : Resolver.loadDirect here = Resolver.loadDirect there := by
  rw [Resolver.loadDirect, Resolver.loadDirect, alike.program.directEdges]

theorem scopeOf (context : Context) : RunsAs here.program there.program
    (Resolver.scopeOf here context) (Resolver.scopeOf there context) := by
  have same : Resolver.scopeOf here = Resolver.scopeOf there := by
    funext context
    rw [Resolver.scopeOf, Resolver.scopeOf, alike.partition]
    simp only [alike.program.scope]
  rw [same]
  exact .of_kept fun _ => by rw [Resolver.after_scopeOf]

theorem applyStrategy : RunsAs here.program there.program (Resolver.applyStrategy here)
    (Resolver.applyStrategy there) where
  same {resolver} decides := by
    simp only [Resolver.applyStrategy, StateT.run_bind, StateT.run_get, pure_bind]
    cases chosen : resolver.strategy with
    | none => rfl
    | some strategy =>
      have refined := alike.program.refine resolver.edges (decides strategy chosen)
      simp only [refined]
  kept resolver := by rw [Resolver.after_applyStrategy]

theorem populate : RunsAs here.program there.program (Resolver.populate here)
    (Resolver.populate there) := by
  -- What is loaded is the same as it stands; only the strategy has to be asked on either side.
  rw [Resolver.populate, Resolver.populate, alike.loadDirect, alike.loadObserved,
    alike.loadAnnotated, alike.program.indirectCalls]
  refine RunsAs.bind (.of_kept fun _ => rfl) fun resolver => ?_
  cases resolver.populated with
  | true => exact .pure _
  | false =>
    refine RunsAs.bind (.of_kept fun _ => rfl) fun _ => RunsAs.bind (.of_kept fun _ => rfl)
      fun direct => RunsAs.bind (.of_kept fun _ => by rw [Resolver.after_loadObserved]) fun _ => ?_
    have rest : RunsAs here.program there.program (do
        Resolver.applyStrategy here
        modify ({ · with populated := true })
        Logged.note <| .callGraphPopulated direct.edges.size (← get).edges.size
          there.program.indirectCalls.length : Inquiry PUnit) (do
        Resolver.applyStrategy there
        modify ({ · with populated := true })
        Logged.note <| .callGraphPopulated direct.edges.size (← get).edges.size
          there.program.indirectCalls.length) :=
      alike.applyStrategy.bind fun _ => .of_kept fun _ => rfl
    cases resolver.usesAnnotations with
    | true =>
      exact (RunsAs.of_kept fun _ => by rw [Resolver.after_loadAnnotated]).bind fun _ => rest
    | false => exact rest

theorem callees (site : CallSite) : RunsAs here.program there.program
    (Resolver.callees here site) (Resolver.callees there site) := by
  rw [Resolver.callees, Resolver.callees, alike.program.targetOf]
  refine alike.populate.bind fun _ => .of_kept fun _ => ?_
  cases there.program.targetOf site with
  | direct callee => rfl
  | indirect => rfl

theorem callers (id : ProcedureId) : RunsAs here.program there.program
    (Resolver.callers here id) (Resolver.callers there id) :=
  alike.populate.bind fun _ => .of_kept fun _ => rfl

theorem isReachable (source target : ProcedureId) (context : Context) :
    RunsAs here.program there.program (Resolver.isReachable here source target context)
      (Resolver.isReachable there source target context) := by
  simp only [Resolver.isReachable, alike.program.isReachable]
  exact alike.populate.bind fun _ => (alike.scopeOf context).bind fun _ => .of_kept fun _ => rfl

theorem callTrace (target : ProcedureId) (context : Context) :
    RunsAs here.program there.program (Resolver.callTrace here target context)
      (Resolver.callTrace there target context) := by
  rw [Resolver.callTrace, Resolver.callTrace, alike.partition]
  exact alike.populate.bind fun _ => (alike.scopeOf context).bind fun _ => .of_kept fun _ => rfl

end Subject.AnswersAs

end SandboxRpc
