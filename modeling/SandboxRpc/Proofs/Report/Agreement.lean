import SandboxRpc.Proofs.Report.Rendering
import SandboxRpc.Proofs.Report.Warnings

/-!
# What the outputs say of unhandled messages

An analysis tells four times which messages have no handler: the graph lists them, a warning is
given for each, the report marks their receivers as missing, and the drawing has no arrow for them.
Each of the four goes by a test of its own. `outputs_agree` says that they come to the same, message
by message: `rows` puts every message beside its entry in the report, and the arrows are those of
the rows that are not marked.
-/

namespace SandboxRpc

open Inquiry

/-! ## Report and drawing -/

namespace Report

variable {subject : Subject}

theorem steady_entryOf (message : Message) : Steady subject (entryOf subject message) :=
  (Steady.callTrace _ _).bind fun _ => Steady.pure _

theorem steady_ofGraph (graph : MessageGraph) : Steady subject (ofGraph subject graph) :=
  (Steady.mapM steady_entryOf _).bind fun _ => Steady.pure _

theorem entries_ofGraph (resolver : Resolver) (graph : MessageGraph) :
    (answer resolver (ofGraph subject graph)).entries =
      graph.messages.map fun message => answer resolver (entryOf subject message) :=
  answer_mapM steady_entryOf resolver graph.messages

end Report

namespace Analysis

variable {subject : Subject}

theorem steady_renderReport (graph : MessageGraph) (format : ReportFormat) :
    Steady subject (renderReport subject graph format) := by
  refine (Report.steady_ofGraph graph).bind fun report => ?_
  cases format with
  | json => exact Steady.pure _
  | text => exact Steady.pure _

/-- Report and drawing are what the resolver would have given of each alone. -/
theorem answer_products (configuration : Configuration) (resolver : Resolver) :
    let graph :=
      (MessageGraph.build configuration.conventions subject.program subject.partition).value
    answer resolver (products configuration subject) =
      { graph
        report := answer resolver (renderReport subject graph configuration.output.format)
        drawing := answer resolver (Dot.render subject graph) } := by
  intro graph
  have filled : (after resolver (Resolver.populate subject)).Agree subject resolver :=
    Steady.populate.kept resolver
  have reported := (steady_renderReport graph configuration.output.format).same filled
  have drawn := (Dot.steady_render subject graph).same
    (((steady_renderReport graph configuration.output.format).kept _).trans filled)
  rw [← reported, ← drawn]
  simp only [products, answer_bind, answer_liftM, after_liftM, answer_pure]
  rfl

end Analysis

/-! ## Agreement -/

/-- An entry tells of a message, and of the calls that a resolver gives for it. -/
structure ReportEntry.Tells (entry : ReportEntry) (resolver : Resolver) (subject : Subject)
    (message : Message) : Prop where
  senderFunction : entry.senderFunction = subject.program.nameOf message.sender
  senderSandbox : entry.senderSandbox = subject.partition.nameOf message.origin
  messageType : entry.messageType = message.messageType
  callTrace : entry.callTrace =
    (answer resolver (Resolver.callTrace subject message.sender message.origin)).map
      subject.program.describe
  missing : entry.receiver = .missing ↔ message.delivery.handler? = none

/-- The arrow of a message enters the node of the receiver that the entry names. -/
structure Drawing.Enters (drawing : Drawing) (subject : Subject) (row : Message × ReportEntry)
    (arrow : Arrow) : Prop where
  carries : Carries drawing.blocks row.1 arrow
  receiver : ∀ context procedure, Places drawing.blocks context procedure arrow.target →
    row.2.receiver =
      .handled (subject.partition.nameOf context) (subject.program.nameOf procedure)

theorem Report.receiverOf_eq_missing_iff {subject : Subject} {delivery : Delivery} :
    receiverOf subject delivery = .missing ↔ delivery.handler? = none := by
  cases delivery <;> simp [receiverOf, Delivery.handler?]

theorem Report.tells_entryOf (resolver : Resolver) (subject : Subject) (message : Message) :
    (answer resolver (entryOf subject message)).Tells resolver subject message :=
  ⟨rfl, rfl, rfl, rfl, receiverOf_eq_missing_iff⟩

namespace Report

variable {subject : Subject} (resolver : Resolver) (graph : MessageGraph)

/-- A message beside its entry. -/
def row (resolver : Resolver) (subject : Subject) (message : Message) : Message × ReportEntry :=
  (message, answer resolver (entryOf subject message))

theorem zip_entries_ofGraph :
    graph.messages.zip (answer resolver (ofGraph subject graph)).entries =
      graph.messages.map (row resolver subject) := by
  rw [entries_ofGraph]
  exact List.map_prod_left_eq_zip.symm

/-- Entries with a mark stand for the unhandled messages. -/
theorem filter_missing (messages : List Message) :
    ((messages.map (row resolver subject)).filter fun row => row.2.receiver = .missing) =
      (messages.filter (·.delivery.handler?.isNone)).map (row resolver subject) := by
  rw [List.filter_map]
  refine congrArg _ (List.filter_congr fun message _ => Bool.eq_iff_iff.mpr ?_)
  rw [Function.comp_apply, decide_eq_true_iff, Option.isNone_iff_eq_none]
  exact (tells_entryOf resolver subject message).missing

/-- Entries without a mark stand for the others. -/
theorem filter_not_missing (messages : List Message) :
    ((messages.map (row resolver subject)).filter fun row => row.2.receiver ≠ .missing) =
      (messages.filter (·.delivery.handler?.isSome)).map (row resolver subject) := by
  rw [List.filter_map]
  refine congrArg _ (List.filter_congr fun message _ => Bool.eq_iff_iff.mpr ?_)
  rw [Function.comp_apply, decide_eq_true_iff, Option.isSome_iff_ne_none]
  exact not_congr (tells_entryOf resolver subject message).missing

end Report

namespace Drawing.Depicts

variable {drawing : Drawing} {subject : Subject} {graph : MessageGraph} {reaches : Reachability}
  (depicts : drawing.Depicts subject.partition graph reaches)
include depicts

theorem enters_rows (resolver : Resolver) :
    List.Forall₂ (drawing.Enters subject)
      ((graph.messages.filter (·.delivery.handler?.isSome)).map (Report.row resolver subject))
      drawing.arrows := by
  rw [List.forall₂_map_left_iff]
  refine depicts.arrows.imp fun message arrow carries => ⟨carries, ?_⟩
  intro context procedure placed
  obtain ⟨destination, handler, delivery, target⟩ := carries.target
  -- The node that is entered is no other procedure's.
  obtain ⟨rfl, rfl⟩ := depicts.eq_of_places placed target
  show Report.receiverOf subject message.delivery = _
  rw [delivery, Report.receiverOf]

theorem length_arrows : drawing.arrows.length + graph.unhandled.length = graph.size := by
  have each := List.length_eq_length_filter_add
    (fun message : Message => message.delivery.handler?.isSome) (l := graph.messages)
  simp only [Option.not_isSome] at each
  rw [← depicts.arrows.length_eq, MessageGraph.unhandled, MessageGraph.size, each]

end Drawing.Depicts

/-- Graph, report, drawing and warnings agree on which messages are unhandled, and report and
drawing on the receivers of the others. -/
theorem outputs_agree (configuration : Configuration) (subject : Subject) (resolver : Resolver) :
    let graph :=
      (MessageGraph.build configuration.conventions subject.program subject.partition).value
    let report := answer resolver (Report.ofGraph subject graph)
    let rows := graph.messages.zip report.entries
    let missing := rows.filter fun row => row.2.receiver = .missing
    (∀ message ∈ graph.messages,
      message.delivery.handler?.isSome → message.delivery.destination?.isSome) ∧
    report.entries.length = graph.size ∧
    (∀ row ∈ rows, row.2.Tells resolver subject row.1) ∧
    missing.map Prod.fst = graph.unhandled ∧
    (∃ drawing : Drawing,
      answer resolver (Dot.render subject graph) = drawing.text subject ∧
      drawing.Depicts subject.partition graph (resolver.reaches subject) ∧
      List.Forall₂ (drawing.Enters subject) (rows.filter fun row => row.2.receiver ≠ .missing)
        drawing.arrows ∧
      drawing.arrows.length + missing.length = graph.size) ∧
    answer resolver (Analysis.products configuration subject) =
      { graph
        report :=
          match configuration.output.format with
          | .json => report.toJsonText
          | .text => report.toText
        drawing := answer resolver (Dot.render subject graph) } ∧
    ∀ tree : FileTree,
      ((Analysis.run configuration subject.program subject.partition :
          StateM FileTree _).run tree).1.unhandled =
        if (tree.makeDirectories? configuration.output.directory).isSome then
          missing.map fun row => (row.1.sender, row.1.origin, row.1.messageType)
        else [] := by
  intro graph report rows missing
  have aligned : rows = graph.messages.map (Report.row resolver subject) :=
    Report.zip_entries_ofGraph resolver graph
  have marked : missing = graph.unhandled.map (Report.row resolver subject) := by
    show rows.filter _ = _
    rw [aligned]
    exact Report.filter_missing resolver graph.messages
  refine ⟨fun message _ => ?_, ?_, ?_, ?_, ?_, ?_, fun tree => ?_⟩
  · cases message.delivery <;> simp [Delivery.handler?, Delivery.destination?]
  · rw [Report.entries_ofGraph, List.length_map, MessageGraph.size]
  · rw [aligned]
    intro row member
    obtain ⟨message, _, rfl⟩ := List.mem_map.mp member
    exact Report.tells_entryOf resolver subject message
  · rw [marked, List.map_map]
    exact List.map_id _
  · obtain ⟨arrows, carried, written⟩ := Drawing.exists_arrows subject.partition
      (resolver.reaches subject) (List.Subset.refl graph.messages)
    have depicts := Drawing.depicts_blocksOf carried
    refine ⟨_, Dot.answer_render subject resolver written, depicts, ?_, ?_⟩
    · rw [aligned, Report.filter_not_missing]
      exact depicts.enters_rows resolver
    · rw [marked, List.length_map]
      exact depicts.length_arrows
  · rw [Analysis.answer_products]
    cases configuration.output.format with
    | json => rfl
    | text => rfl
  · rw [marked, List.map_map]
    exact Analysis.unhandled_run configuration subject.program subject.partition tree

end SandboxRpc
