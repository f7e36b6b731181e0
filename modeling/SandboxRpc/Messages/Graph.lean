import SandboxRpc.Messages.Registry

/-!
# The message graph

Every sending call of a program, with the handler that its message meets.

A message goes to the context that the call names as its destination: the privileged one or the
first sandbox of that name. There the handler registered for its type receives it, wherever in the
context the registration stands. A send of unknown type is left out, with a warning.
-/

namespace SandboxRpc

/-- What becomes of a message. -/
inductive Delivery where
  /-- The destination is not known at compile time, or names no context. -/
  | lost
  /-- The destination has no handler for the message. -/
  | unhandled (destination : Context)
  | handled (destination : Context) (handler : ProcedureId)
deriving DecidableEq, Repr

namespace Delivery

def destination? : Delivery → Option Context
  | lost => none
  | unhandled destination => some destination
  | handled destination _ => some destination

def handler? : Delivery → Option ProcedureId
  | handled _ handler => some handler
  | _ => none

end Delivery

/-- A sending call and what becomes of its message. -/
structure Message where
  /-- The context that the message is sent from. -/
  origin : Context
  site : CallSite
  messageType : String
  delivery : Delivery
deriving DecidableEq, Repr

/-- The procedure that sends a message. -/
def Message.sender (message : Message) : ProcedureId :=
  message.site.caller

/-- The messages of a program by origin, and the handlers that were replaced. -/
structure MessageGraph where
  messages : List Message := []
  replacements : List Replacement := []
deriving DecidableEq, Repr

namespace MessageGraph

/-! ## Queries -/

instance : EmptyCollection MessageGraph := ⟨{}⟩

/-- The number of messages. -/
def size (graph : MessageGraph) : Nat :=
  graph.messages.length

/-- The messages sent from a context, in order. -/
def messagesFrom (graph : MessageGraph) (context : Context) : List Message :=
  graph.messages.filter (·.origin = context)

/-- The contexts that messages are sent from, in ascending order. -/
def origins (graph : MessageGraph) : List Context :=
  (Std.ExtTreeSet.ofList (graph.messages.map Message.origin)).toList

/-- The messages that nothing handles. -/
def unhandled (graph : MessageGraph) : List Message :=
  graph.messages.filter (·.delivery.handler?.isNone)

variable {graph : MessageGraph} {context : Context} {message : Message}

@[simp] theorem mem_messagesFrom :
    message ∈ graph.messagesFrom context ↔ message ∈ graph.messages ∧ message.origin = context := by
  simp [messagesFrom]

@[simp] theorem mem_origins :
    context ∈ graph.origins ↔ ∃ message ∈ graph.messages, message.origin = context := by
  simp [origins]

@[simp] theorem mem_unhandled :
    message ∈ graph.unhandled ↔
      message ∈ graph.messages ∧ message.delivery.handler? = none := by
  simp [unhandled]

/-! ## Construction -/

/-- The context that goes by a name. -/
def contextNamed? (partition : Partition) (name : String) : Option Context :=
  if name = Context.privilegedName then some .privileged
  else (partition.findSandbox? name).map .sandboxed

/-- What becomes of a message of a given type that is sent to a destination. -/
def deliver (registries : Std.ExtTreeMap Context Registry) (messageType : String) :
    Option Context → Delivery
  | none => .lost
  | some destination =>
    match registries[destination]?.bind (·.handlers[messageType]?) with
    | some handler => .handled destination handler
    | none => .unhandled destination

/-- The message that a sending call stands for. -/
def message? (program : Program) (partition : Partition)
    (registries : Std.ExtTreeMap Context Registry) (origin : Context) (site : CallSite) :
    Logged (Option Message) := do
  let some messageType := program.textArgument? site 1
    | Logged.warn (.sendTypeUnknown site)
      return none
  let destination ←
    match program.textArgument? site 0 with
    | some name => do
      let destination := contextNamed? partition name
      if destination.isNone then Logged.note (.destinationUnknown name)
      pure destination
    | none => do
      Logged.warn (.sendDestinationUnknown site)
      pure none
  let delivery := deliver registries messageType destination
  Logged.note (.sendResolved site messageType delivery.handler?.isSome)
  return some { origin, site, messageType, delivery }

/-- The registries of all contexts. -/
def registries (conventions : Conventions) (program : Program) (partition : Partition) :
    Logged (List (Context × Registry)) :=
  partition.contexts.mapM fun context => do
    let calls := partition.population program context
    return (context, ← Registry.ofCalls conventions program context calls)

/-- The sending calls of a program with their contexts, in graph order. -/
def sends (conventions : Conventions) (program : Program) (partition : Partition) :
    List (Context × CallSite) :=
  partition.contexts.flatMap fun context =>
    ((partition.population program context).filter
      (conventions.operation? program · = some .send)).map (context, ·)

/-- The message graph of a partitioned program. -/
def build (conventions : Conventions) (program : Program) (partition : Partition) :
    Logged MessageGraph := do
  -- All handlers are known before the first message, which may go to any context.
  let registries ← registries conventions program partition
  let index := .ofList registries
  let messages ← (sends conventions program partition).mapM fun send =>
    message? program partition index send.1 send.2
  let graph :=
    { messages := messages.filterMap id
      replacements := registries.flatMap (·.2.replacements) }
  Logged.note (.messagesBuilt graph.size graph.unhandled.length graph.replacements.length)
  return graph

end MessageGraph

end SandboxRpc
