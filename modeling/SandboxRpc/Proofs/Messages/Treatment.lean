import SandboxRpc.Proofs.Messages.Matching
import SandboxRpc.Proofs.Turns

/-!
# What becomes of the calls

Every call of a context gets one `Treatment` while the message graph is built: it sends a message,
registers a handler, is skipped with a warning, or passes unnoticed. A treatment says what the call
leaves behind, and nothing else is left behind: the messages, the registrations and the warnings of
`MessageGraph.build` are those of the treatments, in order (`build_accounts`).

A registration may also replace a handler. Whether it does depends on the calls before it, and
`Conventions.replacement?` tells.
-/

namespace SandboxRpc

def Event.registration? : Event → Option (String × ProcedureId)
  | .note (.handlerRegistered messageType handler) => some (messageType, handler)
  | _ => none

/-! ## Treatments -/

inductive Treatment where
  /-- The call invokes no message helper. -/
  | passed
  /-- A message is sent; its destination may be named at compile time. -/
  | sent (messageType : String) (isNamed : Bool)
  | sendSkipped
  | registered (messageType : String) (handler : ProcedureId)
  /-- The type of the messages to be received is not known. -/
  | typeSkipped
  /-- The type is known, but not the handler. -/
  | handlerSkipped
deriving DecidableEq, Repr

namespace Treatment

@[simp] def messageType? : Treatment → Option String
  | sent messageType _ => some messageType
  | _ => none

@[simp] def registration? : Treatment → Option (String × ProcedureId)
  | registered messageType handler => some (messageType, handler)
  | _ => none

/-- The replacement that a registration makes, if there is a handler before it and it is another. -/
@[simp] def replacement? (context : Context) (before : String → Option ProcedureId) :
    Treatment → Option Replacement
  | registered messageType handler =>
    (before messageType).bind fun replaced =>
      if replaced = handler then none
      else some { context, messageType, replaced, successor := handler }
  | _ => none

@[simp] def receiveWarning? (site : CallSite) : Treatment → Option Warning
  | typeSkipped => some (.receiveTypeUnknown site)
  | handlerSkipped => some (.receiveHandlerUnknown site)
  | _ => none

@[simp] def sendWarning? (site : CallSite) : Treatment → Option Warning
  | sendSkipped => some (.sendTypeUnknown site)
  | sent _ false => some (.sendDestinationUnknown site)
  | _ => none

end Treatment

namespace Conventions

/-- What becomes of a call, from its operands alone. -/
def treatment (conventions : Conventions) (program : Program) (site : CallSite) : Treatment :=
  match conventions.operation? program site, program.textArgument? site 1 with
  | none, _ => .passed
  | some .send, none => .sendSkipped
  | some .send, some messageType => .sent messageType (program.textArgument? site 0).isSome
  | some .receive, none | some .receiveSync, none => .typeSkipped
  | some .receive, some messageType =>
    match program.procedureArgument? site 2 with
    | some handler => .registered messageType handler
    | none => .handlerSkipped
  | some .receiveSync, some messageType => .registered messageType site.caller

/-- The replacement that a call makes after the calls before it. -/
def replacement? (conventions : Conventions) (program : Program) (context : Context)
    (earlier : List CallSite) (site : CallSite) : Option Replacement :=
  (conventions.treatment program site).replacement? context fun messageType =>
    (conventions.handlersFor program earlier messageType).getLast?

theorem registration?_eq (conventions : Conventions) (program : Program) (site : CallSite) :
    conventions.registration? program site = (conventions.treatment program site).registration? := by
  rw [registration?, treatment]
  cases conventions.operation? program site with
  | none => rfl
  | some operation =>
    cases operation with
    | send => cases program.textArgument? site 1 <;> rfl
    | receive =>
      cases program.textArgument? site 1 <;> cases program.procedureArgument? site 2 <;> rfl
    | receiveSync => cases program.textArgument? site 1 <;> rfl

end Conventions

/-- What the traces of a treatment tell of a call: which helper it invokes, and which of its
operands are known. -/
structure Treatment.Describes (treatment : Treatment) (conventions : Conventions)
    (program : Program) (site : CallSite) : Prop where
  message : ∀ messageType, treatment.messageType? = some messageType ↔
    conventions.operation? program site = some .send ∧
      program.textArgument? site 1 = some messageType
  sendWarning : ∀ warning, treatment.sendWarning? site = some warning ↔
    conventions.operation? program site = some .send ∧
      (program.textArgument? site 1 = none ∧ warning = .sendTypeUnknown site ∨
        program.textArgument? site 1 ≠ none ∧ program.textArgument? site 0 = none ∧
          warning = .sendDestinationUnknown site)
  registration : ∀ messageType handler,
    treatment.registration? = some (messageType, handler) ↔
      program.textArgument? site 1 = some messageType ∧
        (conventions.operation? program site = some .receive ∧
            program.procedureArgument? site 2 = some handler ∨
          conventions.operation? program site = some .receiveSync ∧ site.caller = handler)
  receiveWarning : ∀ warning, treatment.receiveWarning? site = some warning ↔
    (conventions.operation? program site = some .receive ∨
        conventions.operation? program site = some .receiveSync) ∧
      program.textArgument? site 1 = none ∧ warning = .receiveTypeUnknown site ∨
    conventions.operation? program site = some .receive ∧
      program.textArgument? site 1 ≠ none ∧ program.procedureArgument? site 2 = none ∧
        warning = .receiveHandlerUnknown site

theorem Conventions.treatment_describes (conventions : Conventions) (program : Program)
    (site : CallSite) :
    (conventions.treatment program site).Describes conventions program site := by
  rw [treatment]
  cases operation : conventions.operation? program site with
  | none => constructor <;> simp [operation]
  | some operation' =>
    cases type : program.textArgument? site 1 with
    | none => cases operation' <;> constructor <;> simp [operation, type, eq_comm]
    | some messageType =>
      cases operation' with
      | send =>
        cases destination : program.textArgument? site 0 <;> constructor <;>
          simp [operation, type, destination, eq_comm]
      | receive =>
        cases handler : program.procedureArgument? site 2 <;> constructor <;>
          simp [operation, type, handler, eq_comm]
      | receiveSync => constructor <;> simp [operation, type, eq_comm]

variable {conventions : Conventions} {program : Program} {partition : Partition}
  {context : Context}

/-! ## The receiving side -/

namespace Registry

theorem replacements_register (registry : Registry) (messageType : String)
    (handler : ProcedureId) :
    (registry.register context messageType handler).value.replacements = registry.replacements ++
      ((Treatment.registered messageType handler).replacement? context
        (registry.handlers[·]?)).toList := by
  rw [register, Treatment.replacement?]
  cases registry.handlers[messageType]? with
  | none => simp
  | some replaced =>
    by_cases same : replaced = handler
    · simp [same]
    · simp [same]

theorem warnings_register (registry : Registry) (messageType : String) (handler : ProcedureId) :
    (registry.register context messageType handler).warnings =
      ((Treatment.registered messageType handler).replacement? context
        (registry.handlers[·]?)).toList.map .handlerReplaced := by
  rw [register, Treatment.replacement?]
  cases registry.handlers[messageType]? with
  | none => rfl
  | some replaced =>
    by_cases same : replaced = handler
    · simp [same]
    · simp [same]

theorem registrations_register (registry : Registry) (messageType : String)
    (handler : ProcedureId) :
    (registry.register context messageType handler).events.filterMap Event.registration? = [] := by
  rw [register]
  cases registry.handlers[messageType]? with
  | none => rfl
  | some replaced =>
    by_cases same : replaced = handler
    · simp [same]
    · simp [same, Logged.warn, Event.registration?]

theorem replacements_visit (registry : Registry) (site : CallSite) :
    (visit conventions program context registry site).value.replacements =
      registry.replacements ++
        ((conventions.treatment program site).replacement? context
          (registry.handlers[·]?)).toList := by
  rw [visit, Conventions.treatment]
  cases conventions.operation? program site with
  | none => simp
  | some operation =>
    cases argument : program.textArgument? site 1 with
    | none => cases operation <;> simp [receive, argument]
    | some messageType =>
      cases operation with
      | send => simp
      | receive =>
        cases program.procedureArgument? site 2 <;>
          simp [receive, argument, replacements_register]
      | receiveSync => simp [receive, argument, replacements_register]

theorem events_visit (registry : Registry) (site : CallSite) :
    (visit conventions program context registry site).events =
      match conventions.treatment program site with
      | .passed => []
      | .sent _ _ | .sendSkipped => [.note (.sendFound context site)]
      | .typeSkipped => [.note (.receiveFound context site), .warning (.receiveTypeUnknown site)]
      | .handlerSkipped =>
        [.note (.receiveFound context site), .warning (.receiveHandlerUnknown site)]
      | .registered messageType handler =>
        .note (.receiveFound context site) :: .note (.handlerRegistered messageType handler) ::
          (registry.register context messageType handler).events := by
  rw [visit, Conventions.treatment]
  cases conventions.operation? program site with
  | none => rfl
  | some operation =>
    cases argument : program.textArgument? site 1 with
    | none => cases operation <;> simp [receive, argument, Logged.note, Logged.warn]
    | some messageType =>
      cases operation with
      | send => rfl
      | receive =>
        cases program.procedureArgument? site 2 <;>
          simp [receive, argument, Logged.note, Logged.warn]
      | receiveSync => simp [receive, argument, Logged.note]

theorem warnings_visit (registry : Registry) (site : CallSite) :
    (visit conventions program context registry site).warnings =
      ((conventions.treatment program site).receiveWarning? site).toList ++
        ((conventions.treatment program site).replacement? context
          (registry.handlers[·]?)).toList.map .handlerReplaced := by
  rw [Logged.warnings, events_visit]
  cases conventions.treatment program site with
  | registered messageType handler => exact warnings_register registry messageType handler
  | _ => rfl

theorem registrations_visit (registry : Registry) (site : CallSite) :
    (visit conventions program context registry site).events.filterMap Event.registration? =
      (conventions.treatment program site).registration?.toList := by
  rw [events_visit]
  cases conventions.treatment program site with
  | registered messageType handler =>
    exact congrArg ((messageType, handler) :: ·)
      (registrations_register registry messageType handler)
  | _ => rfl

theorem handlers_foldl (calls : List CallSite) (registry : Registry) :
    (calls.foldl (fun registry site => (visit conventions program context registry site).value)
        registry).handlers =
      (calls.filterMap fun site => (conventions.treatment program site).registration?).foldl
        (fun handlers registration => handlers.insert registration.1 registration.2)
        registry.handlers := by
  induction calls generalizing registry with
  | nil => rfl
  | cons site calls ih =>
    rw [List.foldl_cons, ih, handlers_visit, Conventions.registration?_eq, List.filterMap_cons]
    cases (conventions.treatment program site).registration? with
    | none => rfl
    | some registration => rfl

variable (conventions program context)

theorem handlers_ofCalls (calls : List CallSite) :
    (ofCalls conventions program context calls).value.handlers =
      (calls.filterMap fun site => (conventions.treatment program site).registration?).foldl
        (fun handlers registration => handlers.insert registration.1 registration.2) ∅ := by
  rw [ofCalls, Logged.value_foldlM, handlers_foldl]
  rfl

theorem replacements_ofCalls (calls : List CallSite) :
    (ofCalls conventions program context calls).value.replacements =
      inTurn (fun earlier site =>
        (conventions.replacement? program context earlier site).toList) calls := by
  refine eq_inTurn (fun calls => (ofCalls conventions program context calls).value.replacements)
    rfl ?_ calls
  intro earlier site
  have last : ofCalls conventions program context (earlier ++ [site]) =
      ofCalls conventions program context earlier >>= (visit conventions program context · site) := by
    simp [ofCalls]
  simp only [last, Logged.value_bind, replacements_visit, getElem?_handlers_ofCalls]
  rfl

theorem warnings_ofCalls (calls : List CallSite) :
    (ofCalls conventions program context calls).warnings =
      inTurn (fun earlier site =>
        ((conventions.treatment program site).receiveWarning? site).toList ++
          (conventions.replacement? program context earlier site).toList.map .handlerReplaced)
        calls := by
  rw [Logged.warnings, ofCalls, Logged.events_foldlM, filterMap_inTurn]
  -- The handlers that a call finds are the last ones registered before it.
  congr 1
  funext earlier site
  have step : (visit conventions program context
      (ofCalls conventions program context earlier).value site).warnings = _ :=
    warnings_visit _ site
  simp only [getElem?_handlers_ofCalls] at step
  exact step

theorem registrations_ofCalls (calls : List CallSite) :
    (ofCalls conventions program context calls).events.filterMap Event.registration? =
      calls.filterMap fun site => (conventions.treatment program site).registration? := by
  rw [ofCalls, Logged.events_foldlM, filterMap_inTurn, List.filterMap_eq_flatMap_toList,
    ← inTurn_const]
  congr 1
  funext earlier site
  exact registrations_visit _ site

end Registry

/-! ## The sending side -/

namespace MessageGraph

theorem value_message?_treatment (registries : Std.ExtTreeMap Context Registry) (origin : Context)
    {site : CallSite} (sending : conventions.operation? program site = some .send) :
    (message? program partition registries origin site).value.map
        (fun message => (message.origin, message.site, message.messageType)) =
      (conventions.treatment program site).messageType?.map (origin, site, ·) := by
  rw [value_message?, Conventions.treatment, sending]
  cases program.textArgument? site 1 with
  | none => rfl
  | some messageType => rfl

theorem warnings_message? (registries : Std.ExtTreeMap Context Registry) (origin : Context)
    {site : CallSite} (sending : conventions.operation? program site = some .send) :
    (message? program partition registries origin site).warnings =
      ((conventions.treatment program site).sendWarning? site).toList := by
  rw [Conventions.treatment, sending, message?]
  cases program.textArgument? site 1 with
  | none => rfl
  | some messageType =>
    cases program.textArgument? site 0 with
    | none => rfl
    | some name =>
      -- A name that no context has is noted, but there is no warning of it.
      cases found : contextNamed? partition name with
      | none => simp [found]
      | some destination => simp [found]

theorem registrations_message? (registries : Std.ExtTreeMap Context Registry) (origin : Context)
    (site : CallSite) :
    (message? program partition registries origin site).events.filterMap Event.registration? =
      [] := by
  rw [message?]
  cases program.textArgument? site 1 with
  | none => rfl
  | some messageType =>
    cases program.textArgument? site 0 with
    | none => rfl
    | some name =>
      cases found : contextNamed? partition name with
      | none => simp [found, Logged.note, Event.registration?]
      | some destination => simp [found, Logged.note, Event.registration?]

theorem treatment_of_not_sending {site : CallSite}
    (other : conventions.operation? program site ≠ some .send) :
    (conventions.treatment program site).messageType? = none ∧
      (conventions.treatment program site).sendWarning? site = none := by
  rw [Conventions.treatment]
  cases operation : conventions.operation? program site with
  | none => exact ⟨rfl, rfl⟩
  | some operation' =>
    cases operation' with
    | send => exact absurd operation other
    | receive =>
      cases program.textArgument? site 1 <;> cases program.procedureArgument? site 2 <;>
        exact ⟨rfl, rfl⟩
    | receiveSync => cases program.textArgument? site 1 <;> exact ⟨rfl, rfl⟩

/-! ## The graph -/

variable (conventions program partition)

theorem messages_build_treatment :
    (build conventions program partition).value.messages.map
        (fun message => (message.origin, message.site, message.messageType)) =
      partition.contexts.flatMap fun context =>
        (partition.population program context).filterMap fun site =>
          (conventions.treatment program site).messageType?.map (context, site, ·) := by
  rw [messages_build, List.map_flatMap]
  congr 1
  funext context
  rw [List.map_filterMap]
  congr 1
  funext site
  rw [messageOf?]
  split
  · rename_i sending
    exact value_message?_treatment _ context sending
  · rename_i other
    rw [(treatment_of_not_sending other).1]
    rfl

theorem events_build :
    (build conventions program partition).events =
      (registries conventions program partition).events ++
        (((sends conventions program partition).mapM fun send =>
          message? program partition (index conventions program partition) send.1 send.2).events ++
        [.note (.messagesBuilt (build conventions program partition).value.size
          (build conventions program partition).value.unhandled.length
          (build conventions program partition).value.replacements.length)]) :=
  rfl

theorem events_registries :
    (registries conventions program partition).events = partition.contexts.flatMap fun context =>
      (Registry.ofCalls conventions program context
        (partition.population program context)).events := by
  rw [registries, Logged.events_mapM]
  congr 1
  funext context
  exact List.append_nil _

theorem warnings_registries :
    (registries conventions program partition).warnings =
      partition.contexts.flatMap fun context =>
        inTurn (fun earlier site =>
            ((conventions.treatment program site).receiveWarning? site).toList ++
              (conventions.replacement? program context earlier site).toList.map .handlerReplaced)
          (partition.population program context) := by
  rw [Logged.warnings, events_registries, List.filterMap_flatMap]
  congr 1
  funext context
  exact Registry.warnings_ofCalls conventions program context _

theorem warnings_sends :
    ((sends conventions program partition).mapM fun send =>
        message? program partition (index conventions program partition) send.1 send.2).warnings =
      partition.contexts.flatMap fun context =>
        (partition.population program context).filterMap fun site =>
          (conventions.treatment program site).sendWarning? site := by
  rw [Logged.warnings, Logged.events_mapM, List.filterMap_flatMap, sends, List.flatMap_assoc]
  congr 1
  funext context
  rw [List.flatMap_map]
  have sent : ∀ site ∈ (partition.population program context).filter
      (conventions.operation? program · = some .send),
      (message? program partition (index conventions program partition) context site).warnings =
        ((conventions.treatment program site).sendWarning? site).toList := by
    intro site member
    exact warnings_message? _ context (of_decide_eq_true (List.mem_filter.mp member).2)
  refine (List.flatMap_congr sent).trans ?_
  rw [← List.filterMap_eq_flatMap_toList, List.filterMap_filter]
  congr 1
  funext site
  split
  · rfl
  · rename_i other
    exact (treatment_of_not_sending (mt decide_eq_true other)).2.symm

theorem warnings_build :
    (build conventions program partition).warnings =
      (partition.contexts.flatMap fun context =>
        inTurn (fun earlier site =>
            ((conventions.treatment program site).receiveWarning? site).toList ++
              (conventions.replacement? program context earlier site).toList.map .handlerReplaced)
          (partition.population program context)) ++
      partition.contexts.flatMap fun context =>
        (partition.population program context).filterMap fun site =>
          (conventions.treatment program site).sendWarning? site := by
  -- The note that closes the walk is no warning.
  rw [Logged.warnings, events_build, List.filterMap_append, List.filterMap_append]
  show (registries conventions program partition).warnings ++ (Logged.warnings _ ++ []) = _
  rw [warnings_registries, warnings_sends, List.append_nil]

theorem registrations_build :
    (build conventions program partition).events.filterMap Event.registration? =
      partition.contexts.flatMap fun context =>
        (partition.population program context).filterMap fun site =>
          (conventions.treatment program site).registration? := by
  have delivered : ((sends conventions program partition).mapM fun send =>
      message? program partition (index conventions program partition) send.1
        send.2).events.filterMap Event.registration? = [] := by
    rw [Logged.events_mapM, List.filterMap_flatMap, List.flatMap_eq_nil_iff]
    intro send _
    exact registrations_message? _ send.1 send.2
  rw [events_build, List.filterMap_append, List.filterMap_append, delivered, events_registries,
    List.filterMap_flatMap]
  simp [Event.registration?, Registry.registrations_ofCalls]

theorem handlers_registries :
    (registries conventions program partition).value.map
        (fun entry => (entry.1, entry.2.handlers)) =
      partition.contexts.map fun context =>
        (context, ((partition.population program context).filterMap fun site =>
          (conventions.treatment program site).registration?).foldl
            (fun handlers registration => handlers.insert registration.1 registration.2) ∅) := by
  rw [value_registries, List.map_map]
  congr 1
  funext context
  exact Prod.ext rfl (Registry.handlers_ofCalls conventions program context _)

/-- Every call is accounted for. A context has one message for each call that is treated as sent, and
one registration for each that is treated as registered; the warnings are those of the receiving
calls, with the replacements that they make, and after them all those of the sending calls. Which
treatment a call gets is read off its callee and its operands. -/
theorem build_accounts :
    let built : Logged MessageGraph := build conventions program partition
    let calls := partition.population program
    let treatment := conventions.treatment program
    built.value.messages.map (fun message => (message.origin, message.site, message.messageType)) =
      partition.contexts.flatMap (fun context => (calls context).filterMap fun site =>
        (treatment site).messageType?.map (context, site, ·)) ∧
    built.events.filterMap Event.registration? =
      partition.contexts.flatMap (fun context => (calls context).filterMap fun site =>
        (treatment site).registration?) ∧
    (registries conventions program partition).value.map
        (fun entry => (entry.1, entry.2.handlers)) =
      partition.contexts.map (fun context =>
        (context, ((calls context).filterMap fun site => (treatment site).registration?).foldl
          (fun handlers registration => handlers.insert registration.1 registration.2) ∅)) ∧
    built.warnings =
      partition.contexts.flatMap (fun context =>
        inTurn (fun earlier site => ((treatment site).receiveWarning? site).toList ++
          (conventions.replacement? program context earlier site).toList.map .handlerReplaced)
          (calls context)) ++
      partition.contexts.flatMap (fun context => (calls context).filterMap fun site =>
        (treatment site).sendWarning? site) ∧
    ∀ site, (treatment site).Describes conventions program site := by
  intro built calls treatment
  exact ⟨messages_build_treatment conventions program partition,
    registrations_build conventions program partition,
    handlers_registries conventions program partition,
    warnings_build conventions program partition, conventions.treatment_describes program⟩

end MessageGraph

end SandboxRpc
