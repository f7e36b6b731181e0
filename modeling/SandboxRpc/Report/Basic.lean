import SandboxRpc.CallGraph.Resolver
import SandboxRpc.Messages.Graph

/-!
# Reports

A report names what the message graph refers to by number: for each message its sender, its receiver
and the calls that lead to the sender, and then the handlers that were replaced.
-/

namespace SandboxRpc

/-- Who receives a message. -/
inductive Receiver where
  | handled (sandbox function : String)
  /-- Nothing does. -/
  | missing
deriving DecidableEq, Repr

/-- A message in words. -/
structure ReportEntry where
  senderFunction : String
  senderSandbox : String
  messageType : String
  receiver : Receiver
  /-- The calls that lead to the sender, innermost first. -/
  callTrace : List String
deriving DecidableEq, Repr

/-- A replaced handler in words. -/
structure ReportReplacement where
  sandbox : String
  messageType : String
  replaced : String
  successor : String
deriving DecidableEq, Repr

structure Report where
  entries : List ReportEntry
  replacements : List ReportReplacement
deriving DecidableEq, Repr

namespace Report

/-- What a report says in place of a receiver that is missing. -/
def missingMark : String := "<handler missing>"

/-- The receiver of a message, by name. -/
def receiverOf (subject : Subject) : Delivery → Receiver
  | .handled destination handler =>
    .handled (subject.partition.nameOf destination) (subject.program.nameOf handler)
  | _ => .missing

/-- The entry for a message. -/
def entryOf (subject : Subject) (message : Message) : Inquiry ReportEntry := do
  let trace ← Resolver.callTrace subject message.sender message.origin
  return {
    senderFunction := subject.program.nameOf message.sender
    senderSandbox := subject.partition.nameOf message.origin
    messageType := message.messageType
    receiver := receiverOf subject message.delivery
    callTrace := trace.map subject.program.describe }

/-- The entry for a replaced handler. -/
def replacementOf (subject : Subject) (replacement : Replacement) : ReportReplacement where
  sandbox := subject.partition.nameOf replacement.context
  messageType := replacement.messageType
  replaced := subject.program.nameOf replacement.replaced
  successor := subject.program.nameOf replacement.successor

/-- The report on a message graph, in graph order. -/
def ofGraph (subject : Subject) (graph : MessageGraph) : Inquiry Report := do
  let entries ← graph.messages.mapM (entryOf subject)
  return { entries, replacements := graph.replacements.map (replacementOf subject) }

end Report

end SandboxRpc
