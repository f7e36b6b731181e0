import SandboxRpc.Diagnostic.Component
import SandboxRpc.Diagnostic.Error
import SandboxRpc.Log.Detail
import SandboxRpc.Partition

/-!
# Warnings

What the analysis has to say about a program without giving up. A `Warning` holds the facts;
`Warning.message` and `Warning.fields` word them for the program and partition they are about.
-/

namespace SandboxRpc

/-- Where an extra edge of the call graph comes from. -/
inductive EdgeOrigin where
  /-- A dynamic trace. -/
  | trace
  /-- An annotation of the program. -/
  | declared
deriving DecidableEq, Repr

/-- A handler that took the place of another one for the same message type. -/
structure Replacement where
  context : Context
  messageType : String
  replaced : ProcedureId
  successor : ProcedureId
deriving DecidableEq, Repr

inductive Warning where
  /-- An extra edge starts at a call site that the program lacks. -/
  | edgeDropped (origin : EdgeOrigin) (site : CallSite)
  /-- A dynamic trace could not be read. -/
  | traceIgnored (source : String) (cause : Error)
  /-- An entry of a trace names a procedure that the program lacks. -/
  | traceProcedureUnknown (caller callee : String)
  /-- An entry of a trace names a call site that its caller lacks. -/
  | traceCallUnknown (caller : String) (index : Nat)
  | receiveTypeUnknown (site : CallSite)
  | receiveHandlerUnknown (site : CallSite)
  | handlerReplaced (replacement : Replacement)
  | sendTypeUnknown (site : CallSite)
  | sendDestinationUnknown (site : CallSite)
  /-- Nothing handles a message. -/
  | unhandled (sender : ProcedureId) (context : Context) (messageType : String)
deriving DecidableEq, Repr

def EdgeOrigin.label : EdgeOrigin → String
  | .trace => "dynamic"
  | .declared => "annotation"

namespace Warning

/-- The component that gives a warning. -/
def component : Warning → Component
  | edgeDropped .. | traceIgnored .. => .callGraph
  | traceProcedureUnknown .. | traceCallUnknown .. => .trace
  | receiveTypeUnknown _ | receiveHandlerUnknown _ | handlerReplaced _ | sendTypeUnknown _
  | sendDestinationUnknown _ => .messages
  | unhandled .. => .analysis

def message : Warning → String
  | edgeDropped .. => "edge for unknown call site dropped"
  | traceIgnored .. => "ignoring unreadable dynamic call graph"
  | traceProcedureUnknown .. => "trace edge names unknown procedure"
  | traceCallUnknown .. => "trace edge names unknown call site"
  | receiveTypeUnknown _ => "receive with non-constant message type skipped"
  | receiveHandlerUnknown _ => "receive without a resolvable handler skipped"
  | handlerReplaced _ => "duplicate handler, later registration wins"
  | sendTypeUnknown _ => "send with non-constant message type skipped"
  | sendDestinationUnknown _ => "send with non-constant destination"
  | unhandled .. => "no handler for message"

/-- The details by name. -/
def fields (program : Program) (partition : Partition) : Warning → List (String × Detail)
  | edgeDropped origin site => [("origin", .quoted origin.label), ("call", .text site.label)]
  | traceIgnored source cause => [("source", .text source), ("error", .text cause.message)]
  | traceProcedureUnknown caller callee => [("caller", .text caller), ("callee", .text callee)]
  | traceCallUnknown caller index => [("caller", .text caller), ("index", .number index)]
  | receiveTypeUnknown site
  | receiveHandlerUnknown site
  | sendTypeUnknown site
  | sendDestinationUnknown site => [("call", .text (program.describe site))]
  | handlerReplaced replacement =>
    [("context", .quoted (partition.nameOf replacement.context)),
      ("message_type", .text replacement.messageType),
      ("replaced", .quoted (program.nameOf replacement.replaced)),
      ("by", .quoted (program.nameOf replacement.successor))]
  | unhandled sender context messageType =>
    [("sender", .text (program.nameOf sender)), ("context", .text (partition.nameOf context)),
      ("message_type", .text messageType)]

end Warning

end SandboxRpc
