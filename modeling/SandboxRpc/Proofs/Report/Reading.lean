import Mathlib.Data.List.Forall2
import Mathlib.Logic.Function.Basic
import SandboxRpc.Analysis
import SandboxRpc.Proofs.CallGraph.Inquiry
import SandboxRpc.Proofs.Json.RoundTrip

/-!
# Structured reports can be read

`Report.ofJson?` recovers a report from its JSON form, `Report.Shows` says by which names an object
tells what a report holds, and `toJsonText_recovers` says that rendering loses nothing.

- A receiver is told by the names that are there, never by a text: a procedure may well have the
  name that marks a receiver as missing.
- The list of replaced handlers is there unless it is empty.
-/

namespace SandboxRpc

/-! ## Records -/

namespace Json

@[simp] theorem asText?_text (value : String) : (text value).asText? = some value :=
  Literal.text?_ofString value

theorem asList?_map {α : Type} {item? : Json → Option α} {write : α → Json}
    (reads : ∀ value, item? (write value) = some value) (values : List α) :
    (array (values.map write)).asList? item? = some values := by
  show (values.map write).mapM item? = some values
  induction values with
  | nil => rfl
  | cons value values ih => simp [reads, ih]

theorem members?_record (members : List (String × Json)) :
    (record members).members? = some members := by
  show (members.map _).mapM _ = some members
  induction members with
  | nil => rfl
  | cons entry members ih => simp [Literal.text?_ofString, ih]

theorem fields?_record {names : List String} {members : List (String × Json)}
    (known : ∀ entry ∈ members, entry.1 ∈ names) (extras : Extras) :
    (record members).fields? names extras = names.mapM (single? members) := by
  have extra : members.any (·.1 ∉ names) = false := by simpa using known
  show ((record members).members?.bind fun members =>
    if extras = .refused ∧ members.any (·.1 ∉ names) then none
    else names.mapM (single? members)) = _
  rw [members?_record, Option.bind_some, extra]
  simp

/-- The values that an object has under a name. -/
def named (json : Json) (name : String) : List Json :=
  valuesNamed (json.members?.getD []) name

@[simp] theorem named_record (members : List (String × Json)) (name : String) :
    (record members).named name = valuesNamed members name := by
  rw [named, members?_record, Option.getD_some]

end Json

namespace Report

open Json

/-! ## Reading -/

def receiver? : Option Json → Option Json → Option Json → Option Receiver
  | some sandbox, some function, none => do
    return .handled (← sandbox.asText?) (← function.asText?)
  -- The text of the mark is checked, but it is the name that decides.
  | none, none, some mark => if mark.asText? = some missingMark then some .missing else none
  | _, _, _ => none

def entryOfJson? (json : Json) : Option ReportEntry := do
  match ← json.fields? ["sender_func", "sender_sandbox", "message_type", "receiver_sandbox",
    "receiver_func", "receiver", "call_trace"] .refused with
  | [senderFunction, senderSandbox, messageType, sandbox, function, mark, callTrace] =>
    some {
      senderFunction := ← required? asText? senderFunction
      senderSandbox := ← required? asText? senderSandbox
      messageType := ← required? asText? messageType
      receiver := ← receiver? sandbox function mark
      callTrace := ← required? (asList? asText?) callTrace }
  | _ => none

def replacementOfJson? (json : Json) : Option ReportReplacement := do
  match ← json.fields? ["sandbox", "message_type", "replaced", "by"] .refused with
  | [sandbox, messageType, replaced, successor] =>
    some {
      sandbox := ← required? asText? sandbox
      messageType := ← required? asText? messageType
      replaced := ← required? asText? replaced
      successor := ← required? asText? successor }
  | _ => none

/-- The report that a JSON value describes. -/
def ofJson? (json : Json) : Option Report := do
  match ← json.fields? ["rpc_call", "duplicate_handler"] .refused with
  | [entries, replacements] =>
    some {
      entries := ← required? (asList? entryOfJson?) entries
      replacements := ← defaulted? (asList? replacementOfJson?) [] replacements }
  | _ => none

/-! ## What is written can be read -/

theorem entryOfJson?_entryJson (entry : ReportEntry) :
    entryOfJson? (entryJson entry) = some entry := by
  obtain ⟨senderFunction, senderSandbox, messageType, receiver, callTrace⟩ := entry
  have trace := asList?_map asText?_text callTrace
  cases receiver <;>
    simp [entryOfJson?, entryJson, receiverMembers, fields?_record, single?, valuesNamed,
      required?, receiver?, trace]

theorem replacementOfJson?_replacementJson (replacement : ReportReplacement) :
    replacementOfJson? (replacementJson replacement) = some replacement := by
  simp [replacementOfJson?, replacementJson, fields?_record, single?, valuesNamed, required?]

theorem ofJson?_json (report : Report) : ofJson? report.json = some report := by
  obtain ⟨entries, replacements⟩ := report
  have read := asList?_map entryOfJson?_entryJson entries
  -- The list of replaced handlers is written if there are any, and otherwise taken to be empty.
  cases replacements with
  | nil => simp [ofJson?, json, fields?_record, single?, valuesNamed, required?, defaulted?, read]
  | cons replacement replacements =>
    have listed := asList?_map replacementOfJson?_replacementJson (replacement :: replacements)
    rw [List.map_cons] at listed
    simp [ofJson?, json, fields?_record, single?, valuesNamed, required?, defaulted?, read, listed]

/-! ## What the names tell -/

/-- An object tells by its names who receives a message, and lists the calls in their order. -/
structure ShowsEntry (json : Json) (entry : ReportEntry) : Prop where
  read : entryOfJson? json = some entry
  missing : entry.receiver = .missing ↔
    (json.named "receiver").map asText? = [some missingMark] ∧
      json.named "receiver_sandbox" = [] ∧ json.named "receiver_func" = []
  handled : (∃ sandbox function, entry.receiver = .handled sandbox function) ↔
    json.named "receiver_sandbox" ≠ [] ∧ json.named "receiver_func" ≠ [] ∧
      json.named "receiver" = []
  callTrace : (json.named "call_trace").map (asList? asText?) = [some entry.callTrace]

structure Shows (json : Json) (report : Report) : Prop where
  entries : ∃ items, json.named "rpc_call" = [.array items] ∧
    List.Forall₂ ShowsEntry items report.entries
  replacements : json.named "duplicate_handler" = [] ↔ report.replacements = []

theorem showsEntry_entryJson (entry : ReportEntry) : ShowsEntry (entryJson entry) entry where
  read := entryOfJson?_entryJson entry
  missing := by
    cases receiver : entry.receiver <;> simp [entryJson, receiver, receiverMembers, valuesNamed]
  handled := by
    cases receiver : entry.receiver <;> simp [entryJson, receiver, receiverMembers, valuesNamed]
  callTrace := by
    have trace := asList?_map asText?_text entry.callTrace
    cases receiver : entry.receiver <;>
      simp [entryJson, receiver, receiverMembers, valuesNamed, trace]

theorem shows_json (report : Report) : Shows report.json report where
  entries := by
    refine ⟨report.entries.map entryJson, ?_, ?_⟩
    · cases listed : report.replacements <;> simp [json, listed, valuesNamed]
    · rw [List.forall₂_map_left_iff, List.forall₂_same]
      exact fun entry _ => showsEntry_entryJson entry
  replacements := by
    cases listed : report.replacements <;> simp [json, listed, valuesNamed]

/-! ## Rendering loses nothing -/

theorem isTextual_array_map {α : Type} {write : α → Json}
    (each : ∀ value, IsTextual (write value)) (values : List α) :
    IsTextual (.array (values.map write)) :=
  .array (List.forall_mem_map.mpr fun value _ => each value)

theorem isTextual_entryJson (entry : ReportEntry) : IsTextual (entryJson entry) := by
  have receiver : ∀ field ∈ receiverMembers entry.receiver, IsTextual field.2 := by
    cases entry.receiver <;> simp [receiverMembers, IsTextual.text]
  have trace := isTextual_array_map IsTextual.text entry.callTrace
  refine .record fun field member => ?_
  simp only [List.mem_append] at member
  obtain (sender | told) | traced := member
  · revert field
    simp [IsTextual.text]
  · exact receiver field told
  · obtain rfl := List.mem_singleton.mp traced
    exact trace

theorem isTextual_replacementJson (replacement : ReportReplacement) :
    IsTextual (replacementJson replacement) :=
  .record (by simp [IsTextual.text])

theorem isTextual_json (report : Report) : IsTextual report.json := by
  have entries := isTextual_array_map isTextual_entryJson report.entries
  refine .record ?_
  cases report.replacements with
  | nil => simpa using entries
  | cons replacement replacements =>
    have listed := isTextual_array_map isTextual_replacementJson (replacement :: replacements)
    exact List.forall_mem_cons.mpr ⟨entries, List.forall_mem_singleton.mpr listed⟩

/-- The JSON text of a report is one document, which tells all that the report holds, so different
reports have different texts; and it is what is rendered on request. -/
theorem toJsonText_recovers :
    (∀ report : Report, ∃ document, Json.parse? report.toJsonText = some document ∧
      ofJson? document = some report ∧ Shows document report) ∧
    Function.Injective toJsonText ∧
    ∀ resolver subject graph,
      Inquiry.answer resolver (Analysis.renderReport subject graph .json) =
        (Inquiry.answer resolver (ofGraph subject graph)).toJsonText := by
  have read (report : Report) : Json.parse? report.toJsonText = some report.json :=
    parse?_pretty (isTextual_json report)
  refine ⟨fun report => ⟨report.json, read report, ofJson?_json report, shows_json report⟩, ?_, ?_⟩
  · -- A text determines what is read from it.
    intro first second same
    have recovered (report : Report) :
        (Json.parse? report.toJsonText).bind ofJson? = some report := by
      rw [read, Option.bind_some, ofJson?_json]
    have equal : some first = some second := by
      rw [← recovered first, ← recovered second, same]
    exact Option.some.inj equal
  · intro resolver subject graph
    rfl

example : toJsonText ⟨[], []⟩ = "\x7b\n  \"rpc_call\": []\n\x7d" := by decide

end Report

end SandboxRpc
