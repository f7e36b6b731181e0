import SandboxRpc.Messages.Registry

/-!
# What the calls of a context register

A receiving call registers one handler for one message type, and `Conventions.registration?` reads
both off the call. The registry of a context is then known without following its construction:

- `handlers_visit`: a call changes the handler of at most the type that it registers;
- `getElem?_handlers_ofCalls`: the handler of a type is the last one registered for it.
-/

namespace SandboxRpc

/-! ## Registrations -/

/-- What a receiving call registers: a message type and the handler for it. -/
def Conventions.registration? (conventions : Conventions) (program : Program) (site : CallSite) :
    Option (String × ProcedureId) :=
  match conventions.operation? program site with
  | some .receive => do
    return (← program.textArgument? site 1, ← program.procedureArgument? site 2)
  | some .receiveSync => (program.textArgument? site 1).map (·, site.caller)
  | _ => none

/-- The handlers that calls register for a message type, in order. -/
def Conventions.handlersFor (conventions : Conventions) (program : Program)
    (calls : List CallSite) (messageType : String) : List ProcedureId :=
  ((calls.filterMap (conventions.registration? program)).filter (·.1 = messageType)).map Prod.snd

variable {conventions : Conventions} {program : Program} {context : Context}

@[simp] theorem Conventions.handlersFor_nil {messageType : String} :
    conventions.handlersFor program [] messageType = [] := rfl

theorem Conventions.handlersFor_append (earlier later : List CallSite) (messageType : String) :
    conventions.handlersFor program (earlier ++ later) messageType =
      conventions.handlersFor program earlier messageType ++
        conventions.handlersFor program later messageType := by
  rw [handlersFor, List.filterMap_append, List.filter_append, List.map_append]
  rfl

namespace Registry

/-! ## One call -/

theorem handlers_register (registry : Registry) (messageType : String) (handler : ProcedureId) :
    (registry.register context messageType handler).value.handlers =
      registry.handlers.insert messageType handler := by
  simp only [register]
  split
  · split <;> rfl
  · rfl

theorem handlers_receive (registry : Registry) (site : CallSite) (handler : Option ProcedureId) :
    (registry.receive program context site handler).value.handlers =
      match program.textArgument? site 1, handler with
      | some messageType, some handler => registry.handlers.insert messageType handler
      | _, _ => registry.handlers := by
  cases argument : program.textArgument? site 1 with
  | none => simp [receive, argument]
  | some messageType =>
    cases handler with
    | none => simp [receive, argument]
    | some handler =>
      simp only [receive, argument, Logged.value_bind]
      exact handlers_register registry messageType handler

/-- A call changes the handlers by what it registers, and by nothing else. -/
theorem handlers_visit (registry : Registry) (site : CallSite) :
    (visit conventions program context registry site).value.handlers =
      match conventions.registration? program site with
      | some (messageType, handler) => registry.handlers.insert messageType handler
      | none => registry.handlers := by
  cases operation : conventions.operation? program site with
  | none => simp [visit, Conventions.registration?, operation]
  | some operation' =>
    cases operation' with
    | send => simp [visit, Conventions.registration?, operation]
    | receive =>
      simp only [visit, Conventions.registration?, operation, Logged.value_bind, handlers_receive]
      cases program.textArgument? site 1 <;> cases program.procedureArgument? site 2 <;> rfl
    | receiveSync =>
      simp only [visit, Conventions.registration?, operation, Logged.value_bind, handlers_receive]
      cases program.textArgument? site 1 <;> rfl

/-- After one call, the handler of a type is the one that the call registers for it, or else the
one before. -/
theorem getElem?_handlers_visit (registry : Registry) (site : CallSite) (messageType : String) :
    (visit conventions program context registry site).value.handlers[messageType]? =
      (conventions.handlersFor program [site] messageType).getLast?.or
        registry.handlers[messageType]? := by
  rw [handlers_visit]
  cases registered : conventions.registration? program site with
  | none => simp [Conventions.handlersFor, registered]
  | some registration =>
    obtain ⟨registeredType, handler⟩ := registration
    by_cases same : registeredType = messageType
    · simp [Conventions.handlersFor, registered, same]
    · simp [Conventions.handlersFor, registered, same, Std.ExtTreeMap.getElem?_insert]

/-! ## All calls -/

theorem getElem?_handlers_foldl (calls : List CallSite) (registry : Registry)
    (messageType : String) :
    (calls.foldl (fun registry site => (visit conventions program context registry site).value)
        registry).handlers[messageType]? =
      (conventions.handlersFor program calls messageType).getLast?.or
        registry.handlers[messageType]? := by
  induction calls generalizing registry with
  | nil => simp
  | cons site calls ih =>
    -- A later registration stands before an earlier one, and both before what was there.
    have split : site :: calls = [site] ++ calls := rfl
    rw [List.foldl_cons, ih, getElem?_handlers_visit, split, Conventions.handlersFor_append,
      List.getLast?_append, Option.or_assoc]

/-- The handler in force for a message type is the last one that was registered for it. -/
theorem getElem?_handlers_ofCalls (calls : List CallSite) (messageType : String) :
    (ofCalls conventions program context calls).value.handlers[messageType]? =
      (conventions.handlersFor program calls messageType).getLast? := by
  rw [ofCalls, Logged.value_foldlM, getElem?_handlers_foldl]
  exact Option.or_none

end Registry

end SandboxRpc
