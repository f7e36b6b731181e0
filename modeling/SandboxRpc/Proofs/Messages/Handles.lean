import SandboxRpc.Proofs.Messages.Replacement
import SandboxRpc.Proofs.Program.Handles

/-!
# The handles in a message graph

A message graph of a closed program, in a partition of it, has good handles only. Messages come from
calls of contexts and go to contexts found by name, and handlers are registered by calls.
-/

namespace SandboxRpc

/-- A message is between calls, contexts and procedures that exist. -/
structure Message.IsWithin (message : Message) (program : Program) (partition : Partition) :
    Prop where
  site : program.hasCall message.site
  sender : message.sender ∈ program.procedureIds
  origin : message.origin ∈ partition.contexts
  destination : ∀ context, message.delivery.destination? = some context →
    context ∈ partition.contexts
  handler : ∀ id, message.delivery.handler? = some id → id ∈ program.procedureIds

/-- A replacement is of procedures and in a context that exist. -/
structure Replacement.IsWithin (entry : Replacement) (program : Program) (partition : Partition) :
    Prop where
  context : entry.context ∈ partition.contexts
  replaced : entry.replaced ∈ program.procedureIds
  successor : entry.successor ∈ program.procedureIds

theorem mem_of_mem_changes {α : Type} [DecidableEq α] {values : List α} {pair : α × α}
    (change : pair ∈ changes values) : pair.1 ∈ values ∧ pair.2 ∈ values := by
  obtain ⟨first, second⟩ := List.of_mem_zip (List.mem_filter.mp change).1
  exact ⟨first, List.mem_of_mem_tail second⟩

variable {program : Program} {partition : Partition} {conventions : Conventions}

theorem Conventions.mem_handlersFor (closed : program.IsClosed) {calls : List CallSite}
    (present : ∀ site ∈ calls, program.hasCall site) {messageType : String} {handler : ProcedureId}
    (registered : handler ∈ conventions.handlersFor program calls messageType) :
    handler ∈ program.procedureIds := by
  obtain ⟨registration, member, rfl⟩ := List.mem_map.mp registered
  obtain ⟨site, called, made⟩ := List.mem_filterMap.mp (List.mem_filter.mp member).1
  rw [registration?] at made
  split at made
  · obtain ⟨messageType, _, made⟩ := Option.bind_eq_some_iff.mp made
    obtain ⟨handler, given, same⟩ := Option.bind_eq_some_iff.mp made
    cases same
    exact closed.procedureArgument? given
  · obtain ⟨messageType, _, rfl⟩ := Option.map_eq_some_iff.mp made
    exact Program.caller_mem_procedureIds (present site called)
  · cases made

namespace MessageGraph

variable (closed : program.IsClosed) (within : partition.IsWithin program)
include closed within

theorem handlersFor_population {context : Context} {messageType : String} {handler : ProcedureId}
    (registered : handler ∈
      conventions.handlersFor program (partition.population program context) messageType) :
    handler ∈ program.procedureIds :=
  Conventions.mem_handlersFor closed
    (fun _ runs => within.scope (Partition.mem_scope.mpr runs)) registered

theorem isWithin_of_mem_messages {message : Message}
    (member : message ∈ (build conventions program partition).value.messages) :
    message.IsWithin program partition := by
  have runs := site_mem_scope_origin member
  refine ⟨within.scope runs, Program.caller_mem_procedureIds (within.scope runs),
    Partition.mem_contexts_of_mem_scope runs, ?_, ?_⟩
  · intro context goes
    rw [destination?_of_mem_build member] at goes
    obtain ⟨name, _, found⟩ := Option.bind_eq_some_iff.mp goes
    exact List.mem_of_find?_eq_some found
  · intro id meets
    rw [handler?_of_mem_build member] at meets
    obtain ⟨context, _, last⟩ := Option.bind_eq_some_iff.mp meets
    exact handlersFor_population closed within (List.mem_of_getLast? last)

theorem isWithin_of_mem_replacements {entry : Replacement}
    (member : entry ∈ (build conventions program partition).value.replacements) :
    entry.IsWithin program partition := by
  have change : (entry.replaced, entry.successor) ∈ changes (conventions.handlersFor program
      (partition.population program entry.context) entry.messageType) := by
    rw [← entries_build]
    exact List.mem_map_of_mem (List.mem_filter.mpr ⟨member, by simp⟩)
  obtain ⟨replaced, successor⟩ := mem_of_mem_changes change
  refine ⟨?_, handlersFor_population closed within replaced,
    handlersFor_population closed within successor⟩
  rw [replacements_build] at member
  obtain ⟨context, known, member⟩ := List.mem_flatMap.mp member
  obtain ⟨turn, _, made⟩ := List.mem_flatMap.mp member
  have here := (Treatment.replacement?_eq_some_iff.mp (Option.mem_toList.mp made)).2.2.2
  rwa [here]

end MessageGraph

end SandboxRpc
