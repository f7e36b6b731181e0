import SandboxRpc.Proofs.Partition.Contexts
import SandboxRpc.Proofs.Messages.Registration

/-!
# Messages and their handlers

`MessageGraph.build` goes over the calls twice: it fills the registries of all contexts, and then
looks up what every sending call sends. Seen from outside, each context has one message for each of
its sending calls, and whatever the order of the calls, a message meets the last handler that its
destination registers for its type. `outcomes_messagesFrom_build` says so.
-/

namespace SandboxRpc

namespace MessageGraph

variable (conventions : Conventions) (program : Program) (partition : Partition)

/-! ## The registries -/

/-- The registries of all contexts, by context. -/
def index : Std.ExtTreeMap Context Registry :=
  .ofList (registries conventions program partition).value

theorem value_registries :
    (registries conventions program partition).value = partition.contexts.map fun context =>
      (context, (Registry.ofCalls conventions program context
        (partition.population program context)).value) := by
  rw [registries, Logged.value_mapM]
  rfl

variable {conventions program partition}

theorem getElem?_index {context : Context} (member : context ∈ partition.contexts) :
    (index conventions program partition)[context]? =
      some (Registry.ofCalls conventions program context
        (partition.population program context)).value := by
  rw [index, value_registries]
  refine Std.ExtTreeMap.getElem?_ofList_of_mem Std.ReflCmp.compare_self ?_
    (List.mem_map_of_mem member)
  rw [List.pairwise_map]
  exact partition.contexts_nodup.imp fun different equal =>
    different (Std.LawfulEqOrd.eq_of_compare equal)

theorem getElem?_index_eq_none {context : Context} (absent : context ∉ partition.contexts) :
    (index conventions program partition)[context]? = none := by
  rw [index, value_registries]
  refine Std.ExtTreeMap.getElem?_ofList_of_contains_eq_false ?_
  simpa [List.contains_eq_mem] using absent

/-- The handler that the registries hold is the last one registered in the whole context. -/
theorem handler_index (context : Context) (messageType : String) :
    ((index conventions program partition)[context]?.bind (·.handlers[messageType]?)) =
      (conventions.handlersFor program (partition.population program context)
        messageType).getLast? := by
  by_cases member : context ∈ partition.contexts
  · rw [getElem?_index member, Option.bind_some, Registry.getElem?_handlers_ofCalls]
  · rw [getElem?_index_eq_none member, Partition.population_of_not_mem_contexts member]
    rfl

/-! ## One message -/

section Delivery

variable (registries : Std.ExtTreeMap Context Registry) (messageType : String)
  (destination : Option Context)

theorem destination?_deliver :
    (deliver registries messageType destination).destination? = destination := by
  cases destination with
  | none => rfl
  | some context =>
    simp only [deliver]
    split <;> rfl

theorem handler?_deliver :
    (deliver registries messageType destination).handler? =
      destination.bind fun context => registries[context]?.bind (·.handlers[messageType]?) := by
  cases destination with
  | none => rfl
  | some context =>
    rw [deliver, Option.bind_some]
    split
    · rename_i found
      rw [found, Delivery.handler?]
    · rename_i missing
      rw [missing]
      rfl

end Delivery

theorem value_message? (registries : Std.ExtTreeMap Context Registry) (origin : Context)
    (site : CallSite) :
    (message? program partition registries origin site).value =
      (program.textArgument? site 1).map fun messageType =>
        { origin, site, messageType
          delivery := deliver registries messageType
            ((program.textArgument? site 0).bind (contextNamed? partition)) } := by
  cases typeArgument : program.textArgument? site 1 with
  | none => simp [message?, typeArgument]
  | some messageType =>
    cases nameArgument : program.textArgument? site 0 with
    | none => simp [message?, typeArgument, nameArgument]
    | some name =>
      by_cases unknown : contextNamed? partition name = none
      · simp [message?, typeArgument, nameArgument, unknown]
      · simp [message?, typeArgument, nameArgument, unknown]

/-! ## The graph -/

/-- The message of a call of a context, if the call sends one of known type. -/
def messageOf? (conventions : Conventions) (program : Program) (partition : Partition)
    (origin : Context) (site : CallSite) : Option Message :=
  if conventions.operation? program site = some .send then
    (message? program partition (index conventions program partition) origin site).value
  else none

theorem source_of_messageOf? {origin : Context} {site : CallSite} {message : Message}
    (sent : messageOf? conventions program partition origin site = some message) :
    message.origin = origin ∧ message.site = site := by
  rw [messageOf?] at sent
  split at sent
  · rw [value_message?, Option.map_eq_some_iff] at sent
    obtain ⟨_, _, rfl⟩ := sent
    exact ⟨rfl, rfl⟩
  · cases sent

theorem messages_build :
    (build conventions program partition).value.messages =
      partition.contexts.flatMap fun context =>
        (partition.population program context).filterMap
          (messageOf? conventions program partition context) := by
  show List.filterMap id ((sends conventions program partition).mapM fun send =>
    message? program partition (index conventions program partition) send.1 send.2).value = _
  rw [Logged.value_mapM, List.filterMap_map, sends, List.filterMap_flatMap]
  congr 1
  funext context
  rw [List.filterMap_map, List.filterMap_filter]
  congr 1
  funext site
  simp only [messageOf?, decide_eq_true_eq]
  rfl

/-- Every message is sent by a call of the context that it comes from. -/
theorem site_mem_scope_origin {message : Message}
    (member : message ∈ (build conventions program partition).value.messages) :
    message.site ∈ partition.scope program message.origin := by
  rw [messages_build] at member
  obtain ⟨context, _, collected⟩ := List.mem_flatMap.mp member
  obtain ⟨site, walked, sent⟩ := List.mem_filterMap.mp collected
  obtain ⟨rfl, rfl⟩ := source_of_messageOf? sent
  exact Partition.mem_scope.mpr walked

/-- A message meets the last handler that its destination registers for its type. -/
theorem handler?_of_mem_build {message : Message}
    (member : message ∈ (build conventions program partition).value.messages) :
    message.delivery.handler? = message.delivery.destination?.bind fun context =>
      (conventions.handlersFor program (partition.population program context)
        message.messageType).getLast? := by
  rw [messages_build] at member
  obtain ⟨origin, _, collected⟩ := List.mem_flatMap.mp member
  obtain ⟨site, _, sent⟩ := List.mem_filterMap.mp collected
  rw [messageOf?] at sent
  split at sent
  · rw [value_message?, Option.map_eq_some_iff] at sent
    obtain ⟨messageType, _, rfl⟩ := sent
    simp only [handler?_deliver, destination?_deliver, handler_index]
  · cases sent

theorem messagesFrom_build (context : Context) :
    (build conventions program partition).value.messagesFrom context =
      (partition.population program context).filterMap
        (messageOf? conventions program partition context) := by
  rw [messagesFrom, messages_build]
  refine Partition.filter_flatMap_contexts ?_ ?_ context
  · intro origin message member
    obtain ⟨site, _, sent⟩ := List.mem_filterMap.mp member
    exact (source_of_messageOf? sent).1
  · intro origin absent
    rw [Partition.population_of_not_mem_contexts absent]
    rfl

end MessageGraph

/-! ## What becomes of the messages -/

/-- A message with what becomes of it spelled out. There is no destination if none is known or it
names no context, and no handler if the message meets none. -/
structure Outcome where
  site : CallSite
  messageType : String
  destination : Option Context
  handler : Option ProcedureId
deriving DecidableEq, Repr

def Message.outcome (message : Message) : Outcome where
  site := message.site
  messageType := message.messageType
  destination := message.delivery.destination?
  handler := message.delivery.handler?

namespace MessageGraph

variable (conventions : Conventions) (program : Program) (partition : Partition)

/-- The destination that a sending call names: the first context of that name. -/
def namedDestination? (site : CallSite) : Option Context :=
  (program.textArgument? site 0).bind fun name =>
    partition.contexts.find? (partition.nameOf · = name)

/-- The last handler that the calls of a context register for a message type. -/
def lastHandler? (messageType : String) (context : Context) : Option ProcedureId :=
  (conventions.handlersFor program (partition.population program context) messageType).getLast?

/-- What a call should come to, if it sends a message of known type. -/
def outcomeOf? (site : CallSite) : Option Outcome :=
  if conventions.operation? program site = some .send then
    (program.textArgument? site 1).map fun messageType =>
      let destination := namedDestination? program partition site
      { site, messageType, destination
        handler := destination.bind (lastHandler? conventions program partition messageType) }
  else none

theorem outcome_messageOf? (origin : Context) (site : CallSite) :
    (messageOf? conventions program partition origin site).map Message.outcome =
      outcomeOf? conventions program partition site := by
  rw [messageOf?, outcomeOf?]
  split
  · have named : (program.textArgument? site 0).bind (contextNamed? partition) =
        namedDestination? program partition site := by
      rw [namedDestination?]
      congr 1
      funext name
      exact Partition.contextNamed?_eq_find?
    rw [value_message?, Option.map_map, named]
    congr 1
    funext messageType
    simp only [Function.comp_apply, Message.outcome, destination?_deliver, handler?_deliver,
      handler_index]
    rfl
  · rfl

variable {conventions program partition} in
/-- A message goes to the first context of the name that its call gives. -/
theorem destination?_of_mem_build {message : Message}
    (member : message ∈ (build conventions program partition).value.messages) :
    message.delivery.destination? = namedDestination? program partition message.site := by
  rw [messages_build] at member
  obtain ⟨origin, _, collected⟩ := List.mem_flatMap.mp member
  obtain ⟨site, _, sent⟩ := List.mem_filterMap.mp collected
  have outcome := outcome_messageOf? conventions program partition origin site
  rw [sent, Option.map_some, outcomeOf?] at outcome
  split at outcome
  · obtain ⟨messageType, _, same⟩ := Option.map_eq_some_iff.mp outcome.symm
    rw [(source_of_messageOf? sent).2]
    exact (congrArg Outcome.destination same).symm
  · cases outcome

/-- The messages of a context are its sending calls of known type, in order. Each goes to the first
context of the name that it gives, and meets the last handler that this context registers for its
type, before or after the message is sent. -/
theorem outcomes_messagesFrom_build (context : Context) :
    ((build conventions program partition).value.messagesFrom context).map Message.outcome =
      (partition.population program context).filterMap
        (outcomeOf? conventions program partition) := by
  rw [messagesFrom_build, List.map_filterMap]
  congr 1
  funext site
  exact outcome_messageOf? conventions program partition context site

end MessageGraph

end SandboxRpc
