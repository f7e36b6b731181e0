import SandboxRpc.Json.Printer
import SandboxRpc.Report.Basic

/-!
# Structured reports

The JSON form of a report. An entry has either the two keys of a receiver or the single key
`receiver` that marks it as missing; the list of replaced handlers is left out when it is empty.
-/

namespace SandboxRpc

namespace Report

/-- The members that tell who receives a message. -/
def receiverMembers : Receiver → List (String × Json)
  | .handled sandbox function =>
    [("receiver_sandbox", .text sandbox), ("receiver_func", .text function)]
  | .missing => [("receiver", .text missingMark)]

def entryJson (entry : ReportEntry) : Json :=
  .record <|
    [("sender_func", .text entry.senderFunction), ("sender_sandbox", .text entry.senderSandbox),
      ("message_type", .text entry.messageType)] ++
    receiverMembers entry.receiver ++
    [("call_trace", .array (entry.callTrace.map .text))]

def replacementJson (replacement : ReportReplacement) : Json :=
  .record
    [("sandbox", .text replacement.sandbox), ("message_type", .text replacement.messageType),
      ("replaced", .text replacement.replaced), ("by", .text replacement.successor)]

def json (report : Report) : Json :=
  .record <|
    ("rpc_call", .array (report.entries.map entryJson)) ::
      match report.replacements with
      | [] => []
      | replacements => [("duplicate_handler", .array (replacements.map replacementJson))]

def toJsonText (report : Report) : String :=
  report.json.pretty

end Report

end SandboxRpc
