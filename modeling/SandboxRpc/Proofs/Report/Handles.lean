import SandboxRpc.CommandLine.Run
import SandboxRpc.Proofs.CallGraph.Handles
import SandboxRpc.Proofs.Messages.Handles
import SandboxRpc.Proofs.Report.Agreement
import SandboxRpc.Proofs.Snapshot.LoadedHandles

/-!
# The handles in an analysis

An analysis of a loaded snapshot never comes upon a handle that does not hold. So all that it writes
goes by names that exist, and no extra edge is dropped for want of its call site. `analysis_handles`
says so from the snapshot to the outputs.
-/

namespace SandboxRpc

open Inquiry

/-! ## Names in the outputs -/

/-- An entry gives the names of what a message is about, and of the calls that lead to it. -/
structure ReportEntry.Names (entry : ReportEntry) (subject : Subject) (message : Message)
    (trace : List CallSite) : Prop where
  senderFunction : subject.program.IsNamed message.sender entry.senderFunction
  senderSandbox : subject.partition.IsNamed message.origin entry.senderSandbox
  receiver : ∀ context handler, message.delivery = .handled context handler →
    ∃ sandbox function, entry.receiver = .handled sandbox function ∧
      subject.partition.IsNamed context sandbox ∧ subject.program.IsNamed handler function
  callTrace : List.Forall₂ subject.program.IsDescribed trace entry.callTrace

/-- An entry gives the names of what a replacement is about. -/
structure ReportReplacement.Names (entry : ReportReplacement) (subject : Subject)
    (replacement : Replacement) : Prop where
  sandbox : subject.partition.IsNamed replacement.context entry.sandbox
  replaced : subject.program.IsNamed replacement.replaced entry.replaced
  successor : subject.program.IsNamed replacement.successor entry.successor

/-- Every label in a drawing is a name. -/
structure Drawing.Names (drawing : Drawing) (subject : Subject) : Prop where
  contexts : ∀ block ∈ drawing.blocks,
    subject.partition.IsNamed block.context (subject.partition.nameOf block.context)
  procedures : ∀ block ∈ drawing.blocks, ∀ node ∈ block.nodes,
    subject.program.IsNamed node.procedure (subject.program.nameOf node.procedure)

theorem Report.names_entryOf {subject : Subject} {message : Message} {resolver : Resolver}
    (within : message.IsWithin subject.program subject.partition)
    (calls : ∀ site ∈ answer resolver
      (Resolver.callTrace subject message.sender message.origin), subject.program.hasCall site) :
    (answer resolver (entryOf subject message)).Names subject message
      (answer resolver (Resolver.callTrace subject message.sender message.origin)) where
  senderFunction := Program.isNamed_nameOf within.sender
  senderSandbox := Partition.isNamed_nameOf within.origin
  receiver context handler delivery := by
    have destination : context ∈ subject.partition.contexts :=
      within.destination context (by rw [delivery, Delivery.destination?])
    have declared : handler ∈ subject.program.procedureIds :=
      within.handler handler (by rw [delivery, Delivery.handler?])
    refine ⟨_, _, ?_, Partition.isNamed_nameOf destination, Program.isNamed_nameOf declared⟩
    show receiverOf subject message.delivery = _
    rw [delivery, receiverOf]
  callTrace := by
    refine List.forall₂_map_right_iff.mpr (List.forall₂_same.mpr fun site member => ?_)
    exact Program.isDescribed_describe (calls site member)

theorem Drawing.Depicts.names {drawing : Drawing} {subject : Subject} {graph : MessageGraph}
    {reaches : Reachability} (depicts : drawing.Depicts subject.partition graph reaches)
    (within : ∀ message ∈ graph.messages, message.IsWithin subject.program subject.partition) :
    drawing.Names subject where
  contexts block shown := by
    refine Partition.isNamed_nameOf ?_
    obtain ⟨message, sent, origin | ⟨handler, delivery⟩⟩ :=
      (depicts.contexts block.context).mp (List.mem_map_of_mem shown)
    · exact origin ▸ (within message sent).origin
    · exact (within message sent).destination _ (by rw [delivery, Delivery.destination?])
  procedures block shown node listed := by
    refine Program.isNamed_nameOf ?_
    obtain ⟨message, sent, ⟨_, sender⟩ | delivery⟩ :=
      ((depicts.blocks block shown).members node.procedure).mp (List.mem_map_of_mem listed)
    · exact sender ▸ (within message sent).sender
    · exact (within message sent).handler _ (by rw [delivery, Delivery.handler?])

theorem CommandLine.procedureLines_eq (program : Program) :
    procedureLines program = program.names := by
  refine List.ext_getElem? fun index => ?_
  rw [procedureLines, Program.procedureIds, List.getElem?_map, List.getElem?_map]
  by_cases bound : index < program.procedures.size
  · have named : program.names[index]? = some (program.nameOf ⟨index⟩) :=
      Program.isNamed_nameOf (Program.mem_procedureIds.mpr bound)
    rw [named, List.getElem?_range bound]
    rfl
  · rw [List.getElem?_eq_none (by simpa using bound), List.getElem?_eq_none (by
      simpa [Program.names] using bound)]
    rfl

/-! ## Dropped edges -/

namespace Resolver

/-- A use as an inquiry. -/
def Use.inquire (subject : Subject) : Use → Inquiry Unit
  | populate => Resolver.populate subject
  | loadObserved => Resolver.loadObserved subject
  | loadAnnotated => Resolver.loadAnnotated subject
  | callees site => (fun _ => ()) <$> Resolver.callees subject site
  | callers id => (fun _ => ()) <$> Resolver.callers subject id
  | isReachable source target context =>
    (fun _ => ()) <$> Resolver.isReachable subject source target context
  | callTrace target context => (fun _ => ()) <$> Resolver.callTrace subject target context

theorem Use.warnsOnly_inquire (subject : Subject) (use : Use) :
    WarnsOnly subject.WarnsOf (use.inquire subject) := by
  cases use with
  | populate => exact warnsOnly_populate
  | loadObserved => exact warnsOnly_loadObserved
  | loadAnnotated => exact warnsOnly_loadAnnotated
  | callees site => exact (warnsOnly_callees site).map _
  | callers id => exact (warnsOnly_callers id).map _
  | isReachable source target context => exact (warnsOnly_isReachable source target context).map _
  | callTrace target context => exact (warnsOnly_callTrace target context).map _

end Resolver

theorem Subject.WarnsOf.ne_edgeDropped {subject : Subject} {warning : Warning}
    (warns : subject.WarnsOf warning) (closed : subject.program.IsClosed)
    (isOf : subject.observed.IsOf subject.program) (origin : EdgeOrigin) (site : CallSite) :
    warning ≠ .edgeDropped origin site := by
  rintro rfl
  cases warns with
  | observed given =>
    rcases isOf.component_of_mem_warnings given with trace | ⟨source, cause, same⟩
    · cases trace
    · cases same
  | dropped origin extra absent =>
    rcases extra with shown | annotated
    · exact absent (isOf.mem_found closed.indexed shown).1
    · exact absent (closed.annotatedEdges annotated).1

theorem Analysis.edgeDropped_not_mem_warnings_run {program : Program} (closed : program.IsClosed)
    (configuration : Configuration) (partition : Partition) (tree : FileTree)
    (origin : EdgeOrigin) (site : CallSite) :
    .edgeDropped origin site ∉
      ((run configuration program partition : StateM FileTree _).run tree).1.warnings := by
  intro given
  obtain ⟨observed, isOf, warnings⟩ := warnings_run configuration program partition tree
  rw [warnings] at given
  split at given
  · obtain ⟨before, after, warnings, early, late⟩ :=
      @warnings_products { program, partition, observed } configuration configuration.resolver
    rw [warnings, List.mem_append, List.mem_append, List.mem_append] at given
    rcases given with ((filling | building) | unhandled) | asking
    · exact (early _ filling).ne_edgeDropped closed isOf origin site rfl
    · cases MessageGraph.component_of_mem_warnings_build building
    · obtain ⟨message, _, same⟩ := List.mem_map.mp unhandled
      cases same
    · exact (late _ asking).ne_edgeDropped closed isOf origin site rfl
  · cases given

/-! ## From the snapshot to the outputs -/

theorem Configuration.staysIn_strategy (configuration : Configuration) {program : Program}
    (closed : program.IsClosed) : ∀ chosen ∈ configuration.resolver.strategy,
      chosen.StaysIn program (· ∈ program.procedureIds) := by
  intro chosen asked
  rw [eq_addressTaken_of_mem_strategy asked]
  exact closed.staysIn_addressTaken

/-- Every handle in the analysis of a loaded snapshot holds: in the program and its partition, in
what is observed, in the message graph, and in a resolver whatever it is used for. So the report,
the drawing and the listings give names that exist, and no edge is dropped for want of its call. -/
theorem Snapshot.analysis_handles {snapshot : Snapshot} {program : Program} {partition : Partition}
    (built : snapshot.build = .ok (program, partition)) (configuration : Configuration) :
    let graph := (MessageGraph.build configuration.conventions program partition).value
    program.IsClosed ∧ partition.IsWithin program ∧
    (∀ entries, ∀ edge ∈ (TraceEntry.edges program entries).value,
      program.hasCall edge.1 ∧ edge.2 ∈ program.procedureIds) ∧
    (∀ message ∈ graph.messages, message.IsWithin program partition) ∧
    (∀ entry ∈ graph.replacements, entry.IsWithin program partition) ∧
    CommandLine.procedureLines program = program.names ∧
    (∀ (tree : FileTree) origin site, .edgeDropped origin site ∉
      ((Analysis.run configuration program partition : StateM FileTree _).run tree).1.warnings) ∧
    (∀ tree : FileTree, ((Analysis.observe program configuration.traceSource? :
      StateM FileTree _).run tree).1.IsOf program) ∧
    ∀ observed : Observation, observed.IsOf program →
      let subject : Subject := { program, partition, observed }
      (∀ (resolver : Resolver) (use : Resolver.Use) origin site,
        .edgeDropped origin site ∉ ((use.inquire subject).run resolver).warnings) ∧
      (CommandLine.listIndirectCalls configuration subject).value =
        ((after configuration.resolver (Resolver.populate subject)).indirectTargets program).map
          (CommandLine.indirectCallLine program) ∧
      ∀ uses : List Resolver.Use,
        let reached := configuration.resolver.run (uses.map (subject, ·))
        let report := answer reached (Report.ofGraph subject graph)
        let trace := fun message : Message =>
          answer reached (Resolver.callTrace subject message.sender message.origin)
        reached.edges.Within program (· ∈ program.procedureIds) ∧
        (∀ target context, ∀ site ∈ answer reached (Resolver.callTrace subject target context),
          program.hasCall site) ∧
        (∀ entry ∈ reached.indirectTargets program, program.IsDescribed entry.1
          (program.describe entry.1) ∧ ∀ id ∈ entry.2, program.IsNamed id (program.nameOf id)) ∧
        List.Forall₂ (fun message entry => entry.Names subject message (trace message))
          graph.messages report.entries ∧
        List.Forall₂ (fun replacement entry => entry.Names subject replacement)
          graph.replacements report.replacements ∧
        ∃ drawing : Drawing,
          answer reached (Dot.render subject graph) = drawing.text subject ∧
            drawing.Names subject := by
  intro graph
  obtain ⟨closed, within⟩ := handles_build built
  have messages : ∀ message ∈ graph.messages, message.IsWithin program partition :=
    fun message => MessageGraph.isWithin_of_mem_messages closed within
  have replacements : ∀ entry ∈ graph.replacements, entry.IsWithin program partition :=
    fun entry => MessageGraph.isWithin_of_mem_replacements closed within
  refine ⟨closed, within, fun _ _ => TraceEntry.mem_edges closed.indexed, messages, replacements,
    CommandLine.procedureLines_eq program,
    Analysis.edgeDropped_not_mem_warnings_run closed configuration partition,
    Analysis.isOf_observe program _, ?_⟩
  intro observed isOf subject
  refine ⟨fun resolver use origin site given =>
    (use.warnsOnly_inquire subject resolver _ given).ne_edgeDropped closed isOf origin site rfl,
    Logged.value_mapM _ _, ?_⟩
  intro uses reached report trace
  have supplies : subject.Supplies (· ∈ program.procedureIds) := closed.supplies isOf
  have stays := configuration.staysIn_strategy closed
  obtain ⟨strategy, edges⟩ : reached.strategy = configuration.resolver.strategy ∧
      reached.edges.Within program (· ∈ program.procedureIds) := by
    refine Resolver.within_run stays CallEdges.within_empty fun use member => ?_
    obtain ⟨asked, _, rfl⟩ := List.mem_map.mp member
    exact ⟨rfl, supplies⟩
  have traces (target : ProcedureId) (context : Context) :
      ∀ site ∈ answer reached (Resolver.callTrace subject target context), program.hasCall site :=
    fun site => Resolver.mem_answer_callTrace supplies (strategy ▸ stays) edges
  refine ⟨edges, traces, ?_, ?_, ?_, ?_⟩
  · intro entry listed
    obtain ⟨site, indirect, rfl⟩ := List.mem_map.mp listed
    refine ⟨Program.isDescribed_describe (Program.mem_indirectCalls.mp indirect).1, ?_⟩
    intro id target
    exact Program.isNamed_nameOf
      (edges.callees.targets site id (Std.ExtTreeSet.mem_toList.mp target))
  · show List.Forall₂ _ _ (answer reached (Report.ofGraph subject graph)).entries
    rw [Report.entries_ofGraph]
    refine List.forall₂_map_right_iff.mpr (List.forall₂_same.mpr fun message sent => ?_)
    exact Report.names_entryOf (messages message sent) (traces _ _)
  · refine List.forall₂_map_right_iff.mpr (List.forall₂_same.mpr fun entry member => ?_)
    have entryWithin := replacements entry member
    exact ⟨Partition.isNamed_nameOf entryWithin.context,
      Program.isNamed_nameOf entryWithin.replaced, Program.isNamed_nameOf entryWithin.successor⟩
  · obtain ⟨arrows, carried, written⟩ := Drawing.exists_arrows partition
      (reached.reaches subject) (List.Subset.refl graph.messages)
    exact ⟨_, Dot.answer_render subject reached written,
      (Drawing.depicts_blocksOf carried).names messages⟩

/-- `main` may reach `serve` by an annotation and by a trace that also names what there is not. -/
theorem Snapshot.analysis_handles_of_trace :
    let snapshot : Snapshot := {
      procedures := [
        { name := "main", calls := [
          { target := .direct "__soaap_rpc_recv_helper",
            arguments := [.computed, .global "ping", .cast (.function "log")] },
          { target := .indirect, region := some "worker" }] },
        { name := "serve", calls := [
          { target := .direct "__soaap_rpc_send_helper",
            arguments := [.global "to", .global "ping"] }] }]
      globals := .ofList [("ping", Initializer.characters "PING"),
        ("to", Initializer.characters "<privileged>"), ("held", Initializer.function "serve")]
      annotations := [{ procedure := "main", callIndex := 1, targets := ["serve"] }]
      sandboxes := [{ name := "worker", entryPoints := ["serve"], procedures := ["serve"] }] }
    let entries : List TraceEntry :=
      [⟨"main", 1, "log"⟩, ⟨"main", 7, "serve"⟩, ⟨"gone", 0, "serve"⟩]
    ∃ program partition, snapshot.build = .ok (program, partition) ∧ program.IsClosed ∧
      ∀ configuration : Configuration,
        let subject : Subject :=
          { program, partition, observed := .edges "trace" (TraceEntry.edges program entries) }
        (after configuration.resolver (Resolver.populate subject)).edges.Within program
          (· ∈ program.procedureIds) := by
  intro snapshot entries
  have accepted : snapshot.build.isOk = true := by decide +kernel
  cases built : snapshot.build with
  | error defect =>
    rw [built] at accepted
    cases accepted
  | ok loaded =>
    refine ⟨loaded.1, loaded.2, rfl, (analysis_handles built {}).1, fun configuration => ?_⟩
    obtain ⟨_, _, _, _, _, _, _, _, observed⟩ := analysis_handles built configuration
    exact ((observed _ (.entries "trace" entries)).2.2 [.populate]).1

end SandboxRpc
