import SandboxRpc.Proofs.Messages.Replacement
import SandboxRpc.Proofs.Report.Agreement
import SandboxRpc.Proofs.Report.Labels
import SandboxRpc.Proofs.Snapshot.LoadedContexts
import SandboxRpc.Proofs.Snapshot.Restatement

/-!
# The lines of a text report

A text report has a line for each message, for each call that leads to it and for each replaced
handler. It shows names and message types as they are, and one that holds a line end breaks its
line: what follows stands where a line of its own would. So a report reads line by line exactly if
nothing that it shows holds a line end (`Report.isLineByLine_iff`). Nothing of the kind is shown for
a snapshot whose names and constants are all on one line (`Snapshot.IsUnbroken`).
-/

namespace SandboxRpc

open Inquiry

/-! ## What a report shows -/

/-- The names that a receiver is shown by. -/
def Receiver.texts : Receiver → List String
  | handled sandbox function => [sandbox, function]
  | missing => []

/-- What the line of a message shows. -/
def ReportEntry.lineTexts (entry : ReportEntry) : List String :=
  entry.senderFunction :: entry.senderSandbox :: entry.messageType :: entry.receiver.texts

/-- What the line of a replaced handler shows. -/
def ReportReplacement.texts (replacement : ReportReplacement) : List String :=
  [replacement.messageType, replacement.sandbox, replacement.replaced, replacement.successor]

namespace Report

/-- All that a text report shows besides its own words. -/
def texts (report : Report) : List String :=
  (report.entries.flatMap fun entry => entry.lineTexts ++ entry.callTrace) ++
    report.replacements.flatMap ReportReplacement.texts

/-- The text of a report can be cut into the lines that it was made from. -/
def IsLineByLine (report : Report) : Prop :=
  linesOf report.toText = report.lines ++ [""]

instance (report : Report) : Decidable report.IsLineByLine :=
  inferInstanceAs (Decidable (_ = _))

/-! ## Line ends in a report -/

theorem lineEnds_entryLine (entry : ReportEntry) :
    lineEnds (entryLine entry) = (entry.lineTexts.map lineEnds).sum := by
  have words : lineEnds " (" = 0 ∧ lineEnds ") ---" = 0 ∧ lineEnds "--> " = 0 ∧
      lineEnds " (handled by " = 0 ∧ lineEnds ")" = 0 ∧ lineEnds missingMark = 0 := by decide
  unfold entryLine ReportEntry.lineTexts
  cases entry.receiver with
  | handled sandbox function => simp [receiverText, Receiver.texts, words, Nat.add_assoc]
  | missing => simp [receiverText, Receiver.texts, words, Nat.add_assoc]

theorem lineEnds_frameLine (frame : String) : lineEnds (frameLine frame) = lineEnds frame := by
  have words : lineEnds "    called from " = 0 := by decide
  unfold frameLine
  simp [words]

theorem lineEnds_replacementLine (replacement : ReportReplacement) :
    lineEnds (replacementLine replacement) = (replacement.texts.map lineEnds).sum := by
  have words : lineEnds "duplicate handler for " = 0 ∧ lineEnds " in " = 0 ∧ lineEnds ": " = 0 ∧
      lineEnds " replaced by " = 0 := by decide
  unfold replacementLine
  simp [ReportReplacement.texts, words, Nat.add_assoc]

/-- Lines are broken by what they show, and by nothing else. -/
theorem sum_lineEnds_lines (report : Report) :
    (report.lines.map lineEnds).sum = (report.texts.map lineEnds).sum := by
  have entry (entry : ReportEntry) :
      ((entryLine entry :: entry.callTrace.map frameLine).map lineEnds).sum =
        ((entry.lineTexts ++ entry.callTrace).map lineEnds).sum := by
    simp [lineEnds_entryLine, lineEnds_frameLine, Function.comp_def]
  have replacement (replacement : ReportReplacement) :
      ([replacementLine replacement].map lineEnds).sum =
        (replacement.texts.map lineEnds).sum := by
    simp [lineEnds_replacementLine]
  have single : report.replacements.map replacementLine =
      report.replacements.flatMap fun replacement => [replacementLine replacement] :=
    List.map_eq_flatMap
  rw [lines, texts, single, List.map_append, List.sum_append, List.map_append, List.sum_append,
    sum_lineEnds_flatMap entry, sum_lineEnds_flatMap replacement]

theorem length_lines (report : Report) :
    report.lines.length = report.entries.length +
      (report.entries.map fun entry => entry.callTrace.length).sum +
        report.replacements.length := by
  rw [lines, List.length_append, List.length_map, Nat.add_left_inj]
  induction report.entries with
  | nil => rfl
  | cons entry entries ih =>
    rw [List.flatMap_cons, List.length_append, ih, List.length_cons, List.length_map,
      List.length_cons, List.map_cons, List.sum_cons]
    omega

theorem lines_ne_nil {report : Report} (some : report.entries ≠ []) : report.lines ≠ [] := by
  obtain ⟨first, rest, entries⟩ := List.exists_cons_of_ne_nil some
  simp [lines, entries]

/-- It takes a line end in what is shown to break a line, and any one does. -/
theorem isLineByLine_iff {report : Report} (some : report.entries ≠ []) :
    report.IsLineByLine ↔ ∀ text ∈ report.texts, '\n' ∉ text.toList := by
  rw [IsLineByLine, toText, linesOf_unlines_eq_iff (lines_ne_nil some), sum_lineEnds_lines,
    sum_lineEnds_eq_zero_iff]

end Report

/-! ## Where the texts come from -/

/-- The text that a global variable is known to hold. -/
def Initializer.text? {ρ : Type} : Initializer ρ → Option String
  | .characters text => some (textUpToNul text)
  | _ => none

theorem Program.textArgument?_eq_some {program : Program} {site : CallSite} {index : Nat}
    {value : String} (passed : program.textArgument? site index = some value) :
    ∃ name : String, program.globals[name]?.bind Initializer.text? = some value := by
  rw [textArgument?] at passed
  split at passed
  · rename_i constant
    cases passed
    obtain ⟨argument, _, constant⟩ := Option.bind_eq_some_iff.mp constant
    rw [constant?] at constant
    split at constant
    · cases constant
    · rename_i name _
      obtain ⟨initializer, held, constant⟩ := Option.bind_eq_some_iff.mp constant
      refine ⟨name, Option.bind_eq_some_iff.mpr ⟨initializer, held, ?_⟩⟩
      cases initializer with
      | characters text =>
        cases constant
        rfl
      | function procedure => cases constant
      | other => cases constant
    · cases constant
  · cases passed

namespace MessageGraph

variable {conventions : Conventions} {program : Program} {partition : Partition}

theorem textArgument?_of_mem_messages {message : Message}
    (member : message ∈ (build conventions program partition).value.messages) :
    program.textArgument? message.site 1 = some message.messageType := by
  rw [messages_build] at member
  obtain ⟨origin, _, collected⟩ := List.mem_flatMap.mp member
  obtain ⟨site, _, sent⟩ := List.mem_filterMap.mp collected
  rw [messageOf?] at sent
  split at sent
  · rw [value_message?, Option.map_eq_some_iff] at sent
    obtain ⟨messageType, passed, rfl⟩ := sent
    exact passed
  · cases sent

theorem textArgument?_of_mem_replacements {entry : Replacement}
    (member : entry ∈ (build conventions program partition).value.replacements) :
    ∃ site, program.textArgument? site 1 = some entry.messageType := by
  rw [replacements_build] at member
  obtain ⟨context, _, collected⟩ := List.mem_flatMap.mp member
  obtain ⟨turn, _, made⟩ := List.mem_flatMap.mp collected
  obtain ⟨registered, _⟩ := Treatment.replacement?_eq_some_iff.mp (Option.mem_toList.mp made)
  have described := conventions.treatment_describes program turn.1
  refine ⟨turn.1, ((described.registration entry.messageType entry.successor).mp ?_).1⟩
  rw [registered]
  rfl

end MessageGraph

namespace Snapshot

/-- The names in a snapshot, and the constants that it holds. -/
def texts (snapshot : Snapshot) : List String :=
  snapshot.listedNames ++ snapshot.references ++ snapshot.sandboxes.map SandboxEntry.name ++
    snapshot.globals.toList.filterMap fun entry => entry.2.text?

/-- No name and no constant of a snapshot holds a line end. -/
def IsUnbroken (snapshot : Snapshot) : Prop :=
  ∀ text ∈ snapshot.texts, '\n' ∉ text.toList

instance (snapshot : Snapshot) : Decidable snapshot.IsUnbroken :=
  inferInstanceAs (Decidable (∀ text ∈ _, _))

namespace IsUnbroken

variable {snapshot : Snapshot} {program : Program} {partition : Partition}
  {further : List String} (unbroken : snapshot.IsUnbroken)
include unbroken

theorem procedureName (describes : snapshot.Describes further program) (id : ProcedureId) :
    '\n' ∉ (program.nameOf id).toList := by
  rw [Program.nameOf_eq]
  cases named : program.names[id.index]? with
  | none => exact (by decide : '\n' ∉ Program.unknownName.toList)
  | some name =>
    refine unbroken name ?_
    have member := List.mem_of_getElem? named
    rw [describes.names, List.mem_append, describes.new.members] at member
    simp only [texts, List.mem_append]
    exact .inl (.inl (member.imp_right And.left))

theorem contextName (assigns : snapshot.Assigns program partition) (context : Context) :
    '\n' ∉ (partition.nameOf context).toList := by
  cases context with
  | privileged => exact (by decide : '\n' ∉ Context.privilegedName.toList)
  | sandboxed id =>
    rw [Partition.nameOf_sandboxed_eq_getD, assigns.names]
    cases listed : (snapshot.sandboxes.map SandboxEntry.name)[id.index]? with
    | none => exact (by decide : '\n' ∉ Program.unknownName.toList)
    | some name =>
      refine unbroken name ?_
      simp only [texts, List.mem_append]
      exact .inl (.inr (List.mem_of_getElem? listed))

theorem callName (describes : snapshot.Describes further program) (site : CallSite) :
    '\n' ∉ (program.describe site).toList := by
  have shown : program.describe site =
      program.nameOf site.caller ++ "#" ++ toString site.index := rfl
  rw [shown, String.toList_append, String.toList_append, List.mem_append, List.mem_append]
  rintro ((name | mark) | number)
  · exact unbroken.procedureName describes site.caller name
  · exact absurd mark (by decide)
  · exact (Label.plain_toString site.index).1 number

theorem textArgument (describes : snapshot.Describes further program) {site : CallSite}
    {index : Nat} {value : String} (passed : program.textArgument? site index = some value) :
    '\n' ∉ value.toList := by
  obtain ⟨name, held⟩ := Program.textArgument?_eq_some passed
  rw [describes.globals, Option.bind_map] at held
  obtain ⟨initializer, given, same⟩ := Option.bind_eq_some_iff.mp held
  have kept : (initializer.map (snapshot.number further)).text? = initializer.text? := by
    cases initializer <;> rfl
  refine unbroken value ?_
  simp only [texts, List.mem_append, List.mem_filterMap]
  exact .inr ⟨(name, initializer), Std.ExtTreeMap.mem_toList_iff_getElem?_eq_some.mpr given,
    kept.symm.trans same⟩

/-- A report shows names, constants and numbers, and words of its own. -/
theorem report (describes : snapshot.Describes further program)
    (assigns : snapshot.Assigns program partition) (conventions : Conventions)
    (observed : Observation) (resolver : Resolver) :
    ∀ text ∈ (answer resolver (Report.ofGraph { program, partition, observed }
      (MessageGraph.build conventions program partition).value)).texts, '\n' ∉ text.toList := by
  have procedure := unbroken.procedureName describes
  have context := unbroken.contextName assigns
  have receiver (delivery : Delivery) (text : String)
      (shown : text ∈ (Report.receiverOf { program, partition, observed } delivery).texts) :
      '\n' ∉ text.toList := by
    cases delivery with
    | handled destination handler =>
      obtain rfl | rfl := List.mem_pair.mp shown
      · exact context destination
      · exact procedure handler
    | lost => cases shown
    | unhandled destination => cases shown
  intro text shown
  rcases List.mem_append.mp shown with ofEntry | ofReplacement
  · obtain ⟨entry, member, shown⟩ := List.mem_flatMap.mp ofEntry
    rw [Report.entries_ofGraph, List.mem_map] at member
    obtain ⟨message, sent, rfl⟩ := member
    rcases List.mem_append.mp shown with onLine | onTrace
    · simp only [ReportEntry.lineTexts, List.mem_cons] at onLine
      obtain rfl | rfl | rfl | received := onLine
      · exact procedure message.sender
      · exact context message.origin
      · exact unbroken.textArgument describes (MessageGraph.textArgument?_of_mem_messages sent)
      · exact receiver message.delivery text received
    · obtain ⟨site, _, rfl⟩ := List.mem_map.mp onTrace
      exact unbroken.callName describes site
  · obtain ⟨entry, member, shown⟩ := List.mem_flatMap.mp ofReplacement
    obtain ⟨replacement, made, rfl⟩ := List.mem_map.mp member
    obtain ⟨site, passed⟩ := MessageGraph.textArgument?_of_mem_replacements made
    simp only [ReportReplacement.texts, List.mem_cons, List.not_mem_nil, or_false] at shown
    obtain rfl | rfl | rfl | rfl := shown
    · exact unbroken.textArgument describes passed
    · exact context replacement.context
    · exact procedure replacement.replaced
    · exact procedure replacement.successor

end IsUnbroken

/-- The text of a report consists of the lines of its messages, each followed by the lines of the
calls that lead there, and then of those of the replaced handlers. They stay whole as long as
nothing that they show holds a line end, and only then; each line end makes one line more. -/
theorem build_lines {snapshot : Snapshot} {program : Program} {partition : Partition}
    (built : snapshot.build = .ok (program, partition)) (conventions : Conventions)
    (observed : Observation) (resolver : Resolver) :
    let graph := (MessageGraph.build conventions program partition).value
    let report := answer resolver (Report.ofGraph { program, partition, observed } graph)
    let items := report.entries.length +
      (report.entries.map fun entry => entry.callTrace.length).sum + report.replacements.length
    report.entries ≠ [] →
      linesOf report.toText =
        (report.entries.flatMap fun entry => linesOf (Report.entryLine entry) ++
          entry.callTrace.flatMap fun frame => linesOf (Report.frameLine frame)) ++
        (report.replacements.flatMap fun replacement =>
          linesOf (Report.replacementLine replacement)) ++ [""] ∧
      lineEnds report.toText = items + (report.texts.map lineEnds).sum ∧
      (report.IsLineByLine ↔ lineEnds report.toText = items) ∧
      (report.IsLineByLine ↔ ∀ text ∈ report.texts, '\n' ∉ text.toList) ∧
      (snapshot.IsUnbroken → report.IsLineByLine) := by
  intro graph report items some
  have count : lineEnds report.toText = items + (report.texts.map lineEnds).sum := by
    rw [Report.toText, lineEnds_unlines (Report.lines_ne_nil some), Report.length_lines,
      Report.sum_lineEnds_lines]
  refine ⟨?_, count, ?_, Report.isLineByLine_iff some, fun unbroken => ?_⟩
  · rw [Report.toText, linesOf_unlines_eq_flatMap (Report.lines_ne_nil some), Report.lines,
      List.flatMap_append, List.flatMap_assoc, List.flatMap_map]
    simp only [List.flatMap_cons, List.flatMap_map]
  · rw [Report.isLineByLine_iff some, ← sum_lineEnds_eq_zero_iff, count]
    omega
  · obtain ⟨further, describes⟩ := describes_build built
    exact (Report.isLineByLine_iff some).mpr
      (unbroken.report describes (build_ok built).2 conventions observed resolver)

/-- `main` sends itself one message of each of these types. -/
def sending (messageTypes : List String) : Snapshot where
  procedures := [{
    name := "main"
    calls := messageTypes.map fun messageType => {
      target := .direct "__soaap_rpc_send_helper"
      arguments := [.global "self", .global messageType] } }]
  globals := .ofList <| ("self", Initializer.characters "<privileged>") ::
    messageTypes.map fun messageType => (messageType, .characters messageType)

theorem build_lines_of_ping :
    ∃ program partition, (sending ["PING"]).build = .ok (program, partition) ∧
      let report := answer {} (Report.ofGraph { program, partition }
        (MessageGraph.build {} program partition).value)
      report.entries ≠ [] ∧ report.IsLineByLine := by
  have loads : (sending ["PING"]).build.toOption.any (fun loaded =>
      (answer {} (Report.ofGraph { program := loaded.1, partition := loaded.2 }
        (MessageGraph.build {} loaded.1 loaded.2).value)).entries ≠ []) = true := by
    decide +kernel
  obtain ⟨⟨program, partition⟩, built, some⟩ := Success.exists_of_any loads
  have some := of_decide_eq_true some
  have unbroken : (sending ["PING"]).IsUnbroken := by decide +kernel
  obtain ⟨_, _, _, _, whole⟩ := build_lines built {} .unconfigured {} some
  exact ⟨program, partition, built, some, whole unbroken⟩

/-- A message type with a line end in it makes one message look like two. -/
theorem not_isLineByLine_of_line_end :
    let report (loaded : Program × Partition) :=
      answer {} (Report.ofGraph { program := loaded.1, partition := loaded.2 }
        (MessageGraph.build {} loaded.1 loaded.2).value)
    ∃ forged honest,
      (sending ["PING--> <handler missing>\nmain (<privileged>) ---PONG"]).build = .ok forged ∧
      (sending ["PING", "PONG"]).build = .ok honest ∧
      ((report forged).entries.length = 1 ∧ ¬(report forged).IsLineByLine) ∧
      ((report honest).entries.length = 2 ∧ (report honest).IsLineByLine) ∧
      (report forged).toText = (report honest).toText := by
  intro report
  let text := unlines ["main (<privileged>) ---PING--> <handler missing>",
    "main (<privileged>) ---PONG--> <handler missing>"]
  have one : (sending ["PING--> <handler missing>\nmain (<privileged>) ---PONG"]).build.toOption.any
      (fun loaded => (report loaded).entries.length = 1 ∧ ¬(report loaded).IsLineByLine ∧
        (report loaded).toText = text) = true := by
    decide +kernel
  have two : (sending ["PING", "PONG"]).build.toOption.any
      (fun loaded => (report loaded).entries.length = 2 ∧ (report loaded).IsLineByLine ∧
        (report loaded).toText = text) = true := by
    decide +kernel
  obtain ⟨forged, forgedBuilt, forgedFacts⟩ := Success.exists_of_any one
  obtain ⟨honest, honestBuilt, honestFacts⟩ := Success.exists_of_any two
  obtain ⟨single, broken, shown⟩ := of_decide_eq_true forgedFacts
  obtain ⟨both, whole, shown'⟩ := of_decide_eq_true honestFacts
  exact ⟨forged, honest, forgedBuilt, honestBuilt, ⟨single, broken⟩, ⟨both, whole⟩,
    shown.trans shown'.symm⟩

end Snapshot

end SandboxRpc
