import SandboxRpc.Proofs.CallGraph.Observation
import SandboxRpc.Proofs.Files.View
import SandboxRpc.Proofs.Messages.Treatment

/-!
# Which warnings an analysis gives

A question to a resolver may give warnings, since the tables may still have to be filled.
`Subject.WarnsOf` is all that there can be to warn of then, and no question gives any other warning:
`WarnsOnly` is closed under what inquiries are composed of, and each operation on a resolver has one
lemma here.

The other warnings of an analysis come from the message graph, and from the messages that nothing
handles: one for each of these and from no other step (`unhandled_run`).
-/

namespace SandboxRpc

open Inquiry

/-! ## Warnings of some kind -/

section Kinds

variable {α β : Type} {admits : Warning → Prop}

/-- All warnings are of some kind. -/
def Logged.WarnsOnly (admits : Warning → Prop) (logged : Logged α) : Prop :=
  ∀ warning ∈ logged.warnings, admits warning

/-- All warnings of an inquiry are of some kind, whatever the resolver has learnt. -/
def Inquiry.WarnsOnly (admits : Warning → Prop) (inquiry : Inquiry α) : Prop :=
  ∀ resolver : Resolver, (inquiry.run resolver).WarnsOnly admits

namespace Inquiry

theorem warnings_bind (x : Inquiry α) (f : α → Inquiry β) (resolver : Resolver) :
    ((x >>= f).run resolver).warnings =
      (x.run resolver).warnings ++ ((f (answer resolver x)).run (after resolver x)).warnings :=
  Logged.warnings_bind (x.run resolver) fun entry => (f entry.1).run entry.2

theorem warnings_liftM (logged : Logged α) (resolver : Resolver) :
    ((liftM logged : Inquiry α).run resolver).warnings = logged.warnings := by
  show (logged >>= fun value => Pure.pure (value, resolver)).warnings = _
  rw [Logged.warnings_bind]
  exact List.append_nil _

namespace WarnsOnly

theorem pure (value : α) : WarnsOnly admits (pure value) := by
  intro resolver warning given
  cases given

theorem get : WarnsOnly admits (get : Inquiry Resolver) := by
  intro resolver warning given
  cases given

theorem set (resolver : Resolver) : WarnsOnly admits (set resolver : Inquiry PUnit) := by
  intro resolver warning given
  cases given

theorem modify (f : Resolver → Resolver) : WarnsOnly admits (modify f : Inquiry PUnit) := by
  intro resolver warning given
  cases given

theorem bind {x : Inquiry α} {f : α → Inquiry β} (now : WarnsOnly admits x)
    (later : ∀ value, WarnsOnly admits (f value)) : WarnsOnly admits (x >>= f) := by
  intro resolver warning given
  rw [warnings_bind, List.mem_append] at given
  exact given.elim (now resolver warning) (later _ _ warning)

theorem map {x : Inquiry α} (only : WarnsOnly admits x) (f : α → β) :
    WarnsOnly admits (f <$> x) := by
  rw [map_eq_pure_bind]
  exact only.bind fun value => pure (f value)

theorem mapM {step : α → Inquiry β} (each : ∀ item, WarnsOnly admits (step item))
    (items : List α) : WarnsOnly admits (items.mapM step) := by
  induction items with
  | nil => exact pure []
  | cons item items ih =>
    rw [List.mapM_cons]
    exact (each item).bind fun first => ih.bind fun rest => pure (first :: rest)

/-- What was logged is known to what comes after. -/
theorem bind_liftM {logged : Logged α} {f : α → Inquiry β} (now : logged.WarnsOnly admits)
    (later : WarnsOnly admits (f logged.value)) :
    WarnsOnly admits ((liftM logged : Inquiry α) >>= f) := by
  intro resolver warning given
  rw [warnings_bind, List.mem_append, warnings_liftM] at given
  exact given.elim (now warning) (later resolver warning)

theorem liftM {logged : Logged α} (only : logged.WarnsOnly admits) :
    WarnsOnly admits (liftM logged : Inquiry α) := by
  intro resolver
  rw [Logged.WarnsOnly, warnings_liftM]
  exact only

theorem note (taken : Note) : WarnsOnly admits (Logged.note taken : Inquiry Unit) :=
  liftM fun _ given => by cases given

end WarnsOnly

end Inquiry

end Kinds

/-! ## Filling the tables -/

/-- What is amiss with an observation. -/
def Observation.warnings : Observation → List Warning
  | unconfigured => []
  | failed source cause => [.traceIgnored source cause]
  | edges _ found => found.warnings

/-- What there may be to warn of when the tables are filled. -/
inductive Subject.WarnsOf (subject : Subject) : Warning → Prop where
  | observed {warning : Warning} (given : warning ∈ subject.observed.warnings) :
    WarnsOf subject warning
  /-- An extra edge does not start at a call of the program. -/
  | dropped (origin : EdgeOrigin) {edge : CallEdge}
    (extra : edge ∈ subject.observed.found ∨ edge ∈ subject.program.annotatedEdges)
    (absent : ¬ subject.program.hasCall edge.1) : WarnsOf subject (.edgeDropped origin edge.1)

namespace Resolver

variable {subject : Subject}

theorem warnsOnly_mergeEdges (origin : EdgeOrigin) {extra : List CallEdge}
    (known : ∀ edge ∈ extra,
      edge ∈ subject.observed.found ∨ edge ∈ subject.program.annotatedEdges) :
    WarnsOnly subject.WarnsOf (mergeEdges subject.program origin extra) := by
  refine WarnsOnly.get.bind fun resolver => WarnsOnly.bind (WarnsOnly.liftM ?_) fun edges =>
    (WarnsOnly.set _).bind fun _ => WarnsOnly.pure _
  intro warning given
  obtain ⟨edge, member, merged⟩ := List.mem_filterMap.mp (Logged.mem_warnings.mp given)
  rw [CallEdges.mergeEvent?] at merged
  split at merged
  · split at merged <;> cases merged
  · rename_i absent
    cases merged
    exact .dropped origin (known edge member) absent

theorem warnsOnly_loadObserved : WarnsOnly subject.WarnsOf (loadObserved subject) := by
  have amiss {warning : Warning} (given : warning ∈ subject.observed.warnings) :
      subject.WarnsOf warning := .observed given
  rw [loadObserved]
  cases observed : subject.observed with
  | unconfigured => exact WarnsOnly.note _
  | failed source cause =>
    rw [observed] at amiss
    exact WarnsOnly.liftM fun warning given => amiss given
  | edges source found =>
    rw [observed] at amiss
    refine WarnsOnly.bind_liftM (fun _ given => amiss given) ?_
    refine (warnsOnly_mergeEdges .trace fun edge shown => .inl ?_).bind fun _ => WarnsOnly.note _
    rw [observed]
    exact shown

theorem warnsOnly_loadAnnotated : WarnsOnly subject.WarnsOf (loadAnnotated subject) :=
  (warnsOnly_mergeEdges .declared fun _ member => .inr member).bind fun _ => WarnsOnly.note _

theorem warnsOnly_applyStrategy : WarnsOnly subject.WarnsOf (applyStrategy subject) := by
  refine WarnsOnly.get.bind fun resolver => ?_
  cases resolver.strategy with
  | none => exact WarnsOnly.pure _
  | some strategy =>
    refine WarnsOnly.bind (WarnsOnly.liftM fun warning given => ?_) fun edges => WarnsOnly.set _
    obtain ⟨entry, _, refined⟩ := List.mem_map.mp (Logged.mem_warnings.mp given)
    cases refined

theorem warnsOnly_populate : WarnsOnly subject.WarnsOf (populate subject) := by
  refine WarnsOnly.get.bind fun resolver => ?_
  cases resolver.populated with
  | true => exact WarnsOnly.pure _
  | false =>
    refine (WarnsOnly.modify _).bind fun _ => WarnsOnly.get.bind fun direct =>
      warnsOnly_loadObserved.bind fun _ => ?_
    have rest : WarnsOnly subject.WarnsOf (do
        applyStrategy subject
        modify ({ · with populated := true })
        Logged.note <| .callGraphPopulated direct.edges.size (← get).edges.size
          subject.program.indirectCalls.length : Inquiry PUnit) :=
      warnsOnly_applyStrategy.bind fun _ => (WarnsOnly.modify _).bind fun _ =>
        WarnsOnly.get.bind fun _ => WarnsOnly.note _
    cases resolver.usesAnnotations with
    | true => exact warnsOnly_loadAnnotated.bind fun _ => rest
    | false => exact rest

/-! ## Questions -/

theorem warnsOnly_scopeOf (context : Context) :
    WarnsOnly subject.WarnsOf (scopeOf subject context) := by
  refine WarnsOnly.get.bind fun resolver => ?_
  cases resolver.scopes[context]? with
  | some scope => exact WarnsOnly.pure scope
  | none => exact (WarnsOnly.set _).bind fun _ => WarnsOnly.pure _

theorem warnsOnly_callees (site : CallSite) :
    WarnsOnly subject.WarnsOf (callees subject site) := by
  refine warnsOnly_populate.bind fun _ => ?_
  cases subject.program.targetOf site with
  | direct callee => exact WarnsOnly.pure _
  | indirect => exact WarnsOnly.get.bind fun _ => WarnsOnly.pure _

theorem warnsOnly_callers (id : ProcedureId) : WarnsOnly subject.WarnsOf (callers subject id) :=
  warnsOnly_populate.bind fun _ => WarnsOnly.get.bind fun _ => WarnsOnly.pure _

theorem warnsOnly_isReachable (source target : ProcedureId) (context : Context) :
    WarnsOnly subject.WarnsOf (isReachable subject source target context) :=
  warnsOnly_populate.bind fun _ => (warnsOnly_scopeOf context).bind fun _ =>
    WarnsOnly.get.bind fun _ => WarnsOnly.pure _

theorem warnsOnly_callTrace (target : ProcedureId) (context : Context) :
    WarnsOnly subject.WarnsOf (callTrace subject target context) :=
  warnsOnly_populate.bind fun _ => (warnsOnly_scopeOf context).bind fun _ =>
    WarnsOnly.get.bind fun _ => WarnsOnly.pure _

end Resolver

theorem Report.warnsOnly_ofGraph {subject : Subject} (graph : MessageGraph) :
    WarnsOnly subject.WarnsOf (ofGraph subject graph) := by
  have entries (message : Message) : WarnsOnly subject.WarnsOf (entryOf subject message) :=
    (Resolver.warnsOnly_callTrace _ _).bind fun _ => WarnsOnly.pure _
  exact (WarnsOnly.mapM entries _).bind fun _ => WarnsOnly.pure _

theorem Dot.warnsOnly_render {subject : Subject} (graph : MessageGraph) :
    WarnsOnly subject.WarnsOf (render subject graph) := by
  have reaching (context : Context) (pair : DrawingNode × DrawingNode) :
      WarnsOnly subject.WarnsOf (reachLines subject context pair) :=
    (Resolver.warnsOnly_isReachable _ _ _).bind fun _ => WarnsOnly.pure _
  have blocks (cluster : Cluster) : WarnsOnly subject.WarnsOf (clusterBlock subject cluster) :=
    (WarnsOnly.mapM (reaching cluster.context) _).bind fun _ => WarnsOnly.pure _
  exact ((WarnsOnly.mapM blocks _).bind fun _ => WarnsOnly.pure _).map _

theorem Analysis.warnsOnly_renderReport {subject : Subject} (graph : MessageGraph)
    (format : ReportFormat) : WarnsOnly subject.WarnsOf (renderReport subject graph format) := by
  refine (Report.warnsOnly_ofGraph graph).bind fun report => ?_
  cases format with
  | json => exact WarnsOnly.pure _
  | text => exact WarnsOnly.pure _

/-! ## The message graph -/

/-- The message graph warns of messages and their handlers. -/
theorem MessageGraph.component_of_mem_warnings_build {conventions : Conventions}
    {program : Program} {partition : Partition} {warning : Warning}
    (given : warning ∈ (build conventions program partition).warnings) :
    warning.component = .messages := by
  rw [warnings_build, List.mem_append, List.mem_flatMap, List.mem_flatMap] at given
  rcases given with ⟨context, _, received⟩ | ⟨context, _, sent⟩
  · obtain ⟨turn, _, received⟩ := List.mem_flatMap.mp received
    rcases List.mem_append.mp received with skipped | replaced
    · rw [Option.mem_toList] at skipped
      generalize conventions.treatment program turn.1 = treatment at skipped
      cases treatment with
      | typeSkipped =>
        cases skipped
        rfl
      | handlerSkipped =>
        cases skipped
        rfl
      | _ => cases skipped
    · obtain ⟨_, _, rfl⟩ := List.mem_map.mp replaced
      rfl
  · obtain ⟨site, _, sent⟩ := List.mem_filterMap.mp sent
    generalize conventions.treatment program site = treatment at sent
    cases treatment with
    | sent messageType isNamed =>
      cases isNamed <;> cases sent
      rfl
    | sendSkipped =>
      cases sent
      rfl
    | _ => cases sent

/-! ## Warnings of unhandled messages -/

/-- The sender, the context and the type of a message that nothing handles. -/
def Warning.unhandled? : Warning → Option (ProcedureId × Context × String)
  | unhandled sender context messageType => some (sender, context, messageType)
  | _ => none

/-- The messages of which it is said that nothing handles them, in order. -/
def Logged.unhandled {α : Type} (logged : Logged α) : List (ProcedureId × Context × String) :=
  logged.warnings.filterMap Warning.unhandled?

/-- The analysis itself warns of unhandled messages. -/
theorem Warning.unhandled?_eq_none {warning : Warning} (other : warning.component ≠ .analysis) :
    warning.unhandled? = none := by
  cases warning with
  | unhandled => exact absurd rfl other
  | _ => rfl

theorem Observation.IsOf.component_of_mem_warnings {program : Program} {observed : Observation}
    (isOf : observed.IsOf program) {warning : Warning} (given : warning ∈ observed.warnings) :
    warning.component = .trace ∨ ∃ source cause, warning = .traceIgnored source cause := by
  cases isOf with
  | unconfigured => cases given
  | failed source cause => exact .inr ⟨source, cause, List.mem_singleton.mp given⟩
  | absent path => cases given
  | entries path entries => exact .inl (TraceEntry.component_of_mem_warnings_edges given)

theorem Subject.WarnsOf.component_ne_analysis {subject : Subject} {warning : Warning}
    (warns : subject.WarnsOf warning) (isOf : subject.observed.IsOf subject.program) :
    warning.component ≠ .analysis := by
  cases warns with
  | observed given =>
    rcases isOf.component_of_mem_warnings given with trace | ⟨source, cause, rfl⟩
    · rw [trace]
      exact Component.noConfusion
    · exact Component.noConfusion
  | dropped origin extra absent => exact Component.noConfusion

namespace Analysis

variable {subject : Subject}

theorem warnings_warnUnhandled (graph : MessageGraph) :
    (warnUnhandled graph).warnings = graph.unhandled.map fun message =>
      .unhandled message.sender message.origin message.messageType := by
  rw [Logged.warnings, warnUnhandled, List.filterMap_map]
  exact congrFun List.filterMap_eq_map graph.unhandled

/-- All warnings of an analysis, by where they come from. -/
theorem warnings_products (configuration : Configuration) (resolver : Resolver) :
    let built := MessageGraph.build configuration.conventions subject.program subject.partition
    ∃ before after : List Warning,
      ((products configuration subject).run resolver).warnings = before ++ built.warnings ++
        (built.value.unhandled.map fun message =>
          .unhandled message.sender message.origin message.messageType) ++ after ∧
      (∀ warning ∈ before, subject.WarnsOf warning) ∧ ∀ warning ∈ after, subject.WarnsOf warning := by
  intro built
  have rendered : WarnsOnly subject.WarnsOf (do
      let report ← renderReport subject built.value configuration.output.format
      let drawing ← Dot.render subject built.value
      return { graph := built.value, report, drawing } : Inquiry Products) :=
    (warnsOnly_renderReport _ _).bind fun _ => (Dot.warnsOnly_render _).bind fun _ =>
      WarnsOnly.pure _
  refine ⟨_, _, ?_, Resolver.warnsOnly_populate resolver,
    rendered (after resolver (Resolver.populate subject))⟩
  rw [products, warnings_bind, warnings_bind, warnings_liftM, warnings_bind, warnings_liftM,
    warnings_bind, warnings_liftM, Logged.warnings_note, warnings_warnUnhandled]
  simp only [List.nil_append, List.append_assoc]
  rfl

theorem unhandled_products (isOf : subject.observed.IsOf subject.program)
    (configuration : Configuration) (resolver : Resolver) :
    ((products configuration subject).run resolver).unhandled =
      (MessageGraph.build configuration.conventions subject.program
        subject.partition).value.unhandled.map fun message =>
          (message.sender, message.origin, message.messageType) := by
  obtain ⟨before, after, given, early, late⟩ := warnings_products configuration resolver
  -- Only the step between the graph and the report says anything of unhandled messages.
  have others (warnings : List Warning)
      (from' : ∀ warning ∈ warnings, warning.component ≠ .analysis) :
      warnings.filterMap Warning.unhandled? = [] :=
    List.filterMap_eq_nil_iff.mpr fun warning member =>
      Warning.unhandled?_eq_none (from' warning member)
  rw [Logged.unhandled, given, List.filterMap_append, List.filterMap_append, List.filterMap_append,
    others before fun warning member => (early warning member).component_ne_analysis isOf,
    others after fun warning member => (late warning member).component_ne_analysis isOf,
    others _ fun warning member => by
      rw [MessageGraph.component_of_mem_warnings_build member]
      exact Component.noConfusion,
    List.filterMap_map, List.nil_append, List.nil_append, List.append_nil]
  exact congrFun List.filterMap_eq_map _

/-- What an analysis ends with, once it is known what became of its files. -/
def conclude (found : Logged Products) (written : Except AnalysisFailure AnalysisOutcome) :
    Logged (Except AnalysisFailure AnalysisOutcome) := do
  let _ ← found
  if let .ok outcome := written then
    Logged.note (.analysisWritten outcome.reportPath outcome.dotPath)
  return written

theorem warnings_conclude (found : Logged Products)
    (written : Except AnalysisFailure AnalysisOutcome) :
    (conclude found written).warnings = found.warnings := by
  rw [conclude, Logged.warnings_bind]
  cases written with
  | error failure => exact List.append_nil _
  | ok outcome => exact List.append_nil _

theorem run_bind {σ α β : Type} (x : StateM σ α) (f : α → StateM σ β) (state : σ) :
    (x >>= f).run state = (f (x.run state).1).run (x.run state).2 := rfl

theorem makeDirectories_run (path : String) (tree : FileTree) :
    ((MonadFiles.makeDirectories path : StateM FileTree Bool).run tree).1 =
      (tree.makeDirectories? path).isSome := by
  rw [FileTree.run_makeDirectories]
  cases tree.makeDirectories? path with
  | none => rfl
  | some grown => rfl

/-- The warnings of an analysis, unless it fails before it gives any: they do not depend on what
becomes of the files. -/
theorem warnings_run (configuration : Configuration) (program : Program) (partition : Partition)
    (tree : FileTree) :
    ∃ observed : Observation, observed.IsOf program ∧
      ((run configuration program partition : StateM FileTree _).run tree).1.warnings =
        if (tree.makeDirectories? configuration.output.directory).isSome then
          ((products configuration { program, partition, observed }).run
            configuration.resolver).warnings
        else [] := by
  have isOf := isOf_observe program configuration.callGraph.dynamicTrace
    ((MonadFiles.makeDirectories configuration.output.directory :
      StateM FileTree Bool).run tree).2
  refine ⟨_, isOf, ?_⟩
  rw [run, run_bind, makeDirectories_run]
  cases (tree.makeDirectories? configuration.output.directory).isSome with
  | false => rfl
  | true =>
    rw [if_pos rfl, if_pos rfl, run_bind, run_bind]
    show (conclude _ _).warnings = _
    rw [warnings_conclude, StateT.run', Logged.warnings_map]
    rfl

/-- An analysis gives a warning for each unhandled message and for nothing else, unless it fails
before it has looked at any. -/
theorem unhandled_run (configuration : Configuration) (program : Program) (partition : Partition)
    (tree : FileTree) :
    ((run configuration program partition : StateM FileTree _).run tree).1.unhandled =
      if (tree.makeDirectories? configuration.output.directory).isSome then
        (MessageGraph.build configuration.conventions program partition).value.unhandled.map
          fun message => (message.sender, message.origin, message.messageType)
      else [] := by
  obtain ⟨observed, isOf, given⟩ := warnings_run configuration program partition tree
  rw [Logged.unhandled, given]
  split
  · exact unhandled_products isOf configuration configuration.resolver
  · rfl

end Analysis

end SandboxRpc
