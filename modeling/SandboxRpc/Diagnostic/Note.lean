import SandboxRpc.Diagnostic.Warning
import SandboxRpc.Log.Level

/-!
# Notes

What the program does, step by step, for those who want to watch. A `Note` holds the facts;
`Note.message` and `Note.fields` word them. Notes on what a step came to are of level `info`, those
on the way to it of level `debug`.
-/

namespace SandboxRpc

inductive Note where
  | snapshotLoaded (path : String) (procedures : Nat)
  /-- There is no file at the path of a trace. -/
  | traceAbsent (path : String)
  | traceUnconfigured
  | traceMerged (source : String) (added : Nat)
  | annotationsMerged (added : Nat)
  /-- An extra edge starts at a direct call. -/
  | directCallIgnored (origin : EdgeOrigin) (site : CallSite)
  /-- A strategy gave a call other targets than were found. -/
  | callRefined (site : CallSite) (targets : Nat)
  | callGraphPopulated (directEdges totalEdges indirectCalls : Nat)
  | procedureListed (id : ProcedureId)
  | callListed (site : CallSite) (targets : List ProcedureId)
  | sendFound (context : Context) (site : CallSite)
  | receiveFound (context : Context) (site : CallSite)
  | handlerRegistered (messageType : String) (handler : ProcedureId)
  /-- A message is sent to a context that the partition lacks. -/
  | destinationUnknown (name : String)
  | sendResolved (site : CallSite) (messageType : String) (isHandled : Bool)
  | messagesBuilt (messages unhandled replacements : Nat)
  | analysisBuilt (messages : Nat)
  | analysisWritten (reportPath dotPath : String)
deriving DecidableEq, Repr

namespace Note

/-- The component that takes a note. -/
def component : Note → Component
  | snapshotLoaded .. => .snapshot
  | traceAbsent _ => .trace
  | traceUnconfigured | traceMerged .. | annotationsMerged _ | directCallIgnored .. | callRefined ..
  | callGraphPopulated .. | procedureListed _ | callListed .. => .callGraph
  | sendFound .. | receiveFound .. | handlerRegistered .. | destinationUnknown _ | sendResolved ..
  | messagesBuilt .. => .messages
  | analysisBuilt _ | analysisWritten .. => .analysis

def level : Note → LogLevel
  | snapshotLoaded .. | traceMerged .. | annotationsMerged _ | callGraphPopulated ..
  | messagesBuilt .. | analysisBuilt _ | analysisWritten .. => .info
  | _ => .debug

def message : Note → String
  | snapshotLoaded .. => "loaded program snapshot"
  | traceAbsent _ => "no dynamic trace recorded"
  | traceUnconfigured => "no dynamic call graph source configured"
  | traceMerged .. => "loaded dynamic call graph edges"
  | annotationsMerged _ => "loaded annotated call graph edges"
  | directCallIgnored .. => "edge for direct call ignored"
  | callRefined .. => "indirect call refined"
  | callGraphPopulated .. => "call graph cache populated"
  | procedureListed _ => "function"
  | callListed .. => "function pointer call"
  | sendFound .. => "send"
  | receiveFound .. => "receive"
  | handlerRegistered .. => "handler registered"
  | destinationUnknown _ => "send to unknown context"
  | sendResolved .. => "send resolved"
  | messagesBuilt .. => "rpc graph built"
  | analysisBuilt _ => "built RPC graph"
  | analysisWritten .. => "analysis written"

/-- The details by name. -/
def fields (program : Program) (partition : Partition) : Note → List (String × Detail)
  | snapshotLoaded path procedures => [("path", .text path), ("procedures", .number procedures)]
  | traceAbsent path => [("path", .text path)]
  | traceUnconfigured => []
  | traceMerged source added => [("source", .text source), ("added", .number added)]
  | annotationsMerged added => [("added", .number added)]
  | directCallIgnored origin site =>
    [("origin", .quoted origin.label), ("call", .text (program.describe site))]
  | callRefined site targets =>
    [("call", .text (program.describe site)), ("targets", .number targets)]
  | callGraphPopulated directEdges totalEdges indirectCalls =>
    [("direct_edges", .number directEdges), ("total_edges", .number totalEdges),
      ("indirect_calls", .number indirectCalls)]
  | procedureListed id =>
    [("function", .text (program.nameOf id)), ("calls", .number (program.callCount id))]
  | callListed site targets =>
    [("call", .text (program.describe site)),
      ("targets", .quotedList (targets.map program.nameOf))]
  | sendFound context site | receiveFound context site =>
    [("context", .quoted (partition.nameOf context)), ("call", .text (program.describe site))]
  | handlerRegistered messageType handler =>
    [("message_type", .text messageType), ("handler", .quoted (program.nameOf handler))]
  | destinationUnknown name => [("destination", .text name)]
  | sendResolved site messageType isHandled =>
    [("call", .text (program.describe site)), ("message_type", .text messageType),
      ("matched", .flag isHandled)]
  | messagesBuilt messages unhandled replacements =>
    [("records", .number messages), ("missing", .number unhandled),
      ("duplicates", .number replacements)]
  | analysisBuilt messages => [("messages", .number messages)]
  | analysisWritten reportPath dotPath => [("report", .text reportPath), ("dot", .text dotPath)]

end Note

end SandboxRpc
