import SandboxRpc.Diagnostic.Logged
import SandboxRpc.Messages.Conventions

/-!
# Handlers of a context

The receiving calls of a context register handlers for message types. A later registration for the
same type replaces the earlier one; where that changes the handler it is recorded.

A receiving call registers nothing, with a warning, if its message type or its handler is not known
at compile time.
-/

namespace SandboxRpc

/-- The handlers of a context by message type, and the replacements among them in order. -/
structure Registry where
  handlers : Std.ExtTreeMap String ProcedureId := ∅
  replacements : List Replacement := []

namespace Registry

instance : EmptyCollection Registry := ⟨{}⟩

/-- Makes a procedure the handler of a message type. -/
def register (registry : Registry) (context : Context) (messageType : String)
    (handler : ProcedureId) : Logged Registry := do
  let handlers := registry.handlers.insert messageType handler
  match registry.handlers[messageType]? with
  | some replaced =>
    -- Registering the same handler again is no replacement.
    if replaced = handler then return { registry with handlers }
    let replacement := { context, messageType, replaced, successor := handler }
    Logged.warn (.handlerReplaced replacement)
    return { handlers, replacements := registry.replacements ++ [replacement] }
  | none => return { registry with handlers }

/-- Registers what a receiving call asks for. The handler of a synchronous one is its caller. -/
def receive (registry : Registry) (program : Program) (context : Context) (site : CallSite)
    (handler : Option ProcedureId) : Logged Registry :=
  match program.textArgument? site 1, handler with
  | none, _ => do
    Logged.warn (.receiveTypeUnknown site)
    return registry
  | some _, none => do
    Logged.warn (.receiveHandlerUnknown site)
    return registry
  | some messageType, some handler => do
    Logged.note (.handlerRegistered messageType handler)
    registry.register context messageType handler

/-- Takes one call of a context into account. -/
def visit (conventions : Conventions) (program : Program) (context : Context)
    (registry : Registry) (site : CallSite) : Logged Registry :=
  match conventions.operation? program site with
  | some .send => do
    Logged.note (.sendFound context site)
    return registry
  | some .receive => do
    Logged.note (.receiveFound context site)
    registry.receive program context site (program.procedureArgument? site 2)
  | some .receiveSync => do
    Logged.note (.receiveFound context site)
    registry.receive program context site (some site.caller)
  | none => return registry

/-- The registry that the calls of a context make, in order. -/
def ofCalls (conventions : Conventions) (program : Program) (context : Context)
    (calls : List CallSite) : Logged Registry :=
  calls.foldlM (visit conventions program context) ∅

end Registry

end SandboxRpc
