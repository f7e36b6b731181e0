import SandboxRpc.Proofs.Messages.Replacement
import SandboxRpc.Proofs.Partition.Growth

/-!
# Messages after a sandbox is added

A new sandbox brings calls, handlers and a name of its own. To the messages of the other contexts
only its name can matter, and that only if no context had the name before: then the messages that
went nowhere because of it now arrive. `build_addSandbox` says so, and that handlers are replaced as
before, but for what the calls of the new sandbox add at the end.
-/

namespace SandboxRpc

/-- The delivery to a context where the message meets the given handler, if any. -/
def Delivery.arrival (destination : Context) : Option ProcedureId → Delivery
  | some handler => .handled destination handler
  | none => .unhandled destination

/-- A message awaits a context of some name if its call gives that name and no context has it. -/
def Message.Awaits (message : Message) (program : Program) (partition : Partition)
    (name : String) : Prop :=
  program.textArgument? message.site 0 = some name ∧
    name ≠ Context.privilegedName ∧ name ∉ partition.sandboxNames

instance (message : Message) (program : Program) (partition : Partition) (name : String) :
    Decidable (message.Awaits program partition name) :=
  inferInstanceAs (Decidable (_ ∧ _))

namespace MessageGraph

variable {conventions : Conventions} {program : Program} {partition : Partition} {name : String}
  {procedures entryPoints : List ProcedureId}

/-! ## Names -/

theorem contextNamed?_eq_none_iff {wanted : String} :
    contextNamed? partition wanted = none ↔
      wanted ≠ Context.privilegedName ∧ wanted ∉ partition.sandboxNames := by
  rw [contextNamed?, Partition.findSandbox?_eq]
  by_cases privileged : wanted = Context.privilegedName
  · simp [privileged]
  · simp [privileged, List.idxOf?_eq_none_iff]

theorem mem_contexts_of_contextNamed? {wanted : String} {context : Context}
    (found : contextNamed? partition wanted = some context) : context ∈ partition.contexts := by
  rw [Partition.contextNamed?_eq_find?] at found
  exact List.mem_of_find?_eq_some found

/-- The new sandbox is found by its name only if nothing else is. -/
theorem contextNamed?_addSandbox {wanted : String} :
    contextNamed? (partition.addSandbox program name procedures entryPoints).2 wanted =
      (contextNamed? partition wanted).or
        (if name = wanted then
          some (.sandboxed (partition.addSandbox program name procedures entryPoints).1)
        else none) := by
  by_cases privileged : wanted = Context.privilegedName
  · simp [contextNamed?, privileged]
  · simp only [contextNamed?, privileged, if_false, Partition.findSandbox?_addSandbox,
      Option.map_or]
    split
    · rfl
    · rfl

theorem ne_of_mem_contexts {context : Context} (member : context ∈ partition.contexts) :
    context ≠ .sandboxed (partition.addSandbox program name procedures entryPoints).1 := by
  rintro rfl
  exact Nat.lt_irrefl _ (Partition.sandboxed_mem_contexts.mp member)

/-! ## One message -/

theorem deliver_index (messageType : String) (destination : Option Context) :
    deliver (index conventions program partition) messageType destination =
      match destination with
      | none => .lost
      | some context =>
        .arrival context (lastHandler? conventions program partition messageType context) := by
  cases destination with
  | none => rfl
  | some context =>
    simp only [deliver, handler_index, lastHandler?]
    split
    · rename_i found
      rw [found]
      rfl
    · rename_i missing
      rw [missing]
      rfl

/-- The contexts that were there before have the handlers that they had. -/
theorem deliver_addSandbox (messageType : String) {context : Context}
    (member : context ∈ partition.contexts) :
    deliver (index conventions program
        (partition.addSandbox program name procedures entryPoints).2) messageType (some context) =
      deliver (index conventions program partition) messageType (some context) := by
  simp only [deliver_index, lastHandler?]
  rw [Partition.population_addSandbox (ne_of_mem_contexts member)]

variable (conventions program partition name procedures entryPoints) in
/-- A message as the new sandbox changes it: it arrives there if it has awaited it. -/
def readdressed (message : Message) : Message :=
  let grown := partition.addSandbox program name procedures entryPoints
  if message.Awaits program partition name then
    { message with
      delivery := .arrival (.sandboxed grown.1)
        (lastHandler? conventions program grown.2 message.messageType (.sandboxed grown.1)) }
  else message

theorem deliver_addSandbox_of_named {messageType wanted : String}
    (other : name = wanted → contextNamed? partition wanted ≠ none) :
    deliver (index conventions program
        (partition.addSandbox program name procedures entryPoints).2) messageType
        (contextNamed? (partition.addSandbox program name procedures entryPoints).2 wanted) =
      deliver (index conventions program partition) messageType
        (contextNamed? partition wanted) := by
  rw [contextNamed?_addSandbox]
  cases found : contextNamed? partition wanted with
  | some context =>
    rw [Option.some_or, deliver_addSandbox _ (mem_contexts_of_contextNamed? found)]
  | none =>
    rw [if_neg fun same => other same found]
    rfl

theorem messageOf?_addSandbox (origin : Context) (site : CallSite) :
    messageOf? conventions program
        (partition.addSandbox program name procedures entryPoints).2 origin site =
      (messageOf? conventions program partition origin site).map
        (readdressed conventions program partition name procedures entryPoints) := by
  rw [messageOf?, messageOf?]
  split
  · rw [value_message?, value_message?, Option.map_map]
    refine congrArg (Option.map · _) (funext fun messageType => ?_)
    rw [Function.comp_apply, readdressed]
    split
    · rename_i awaits
      obtain ⟨given, unused⟩ := awaits
      rw [given, Option.bind_some, contextNamed?_addSandbox, contextNamed?_eq_none_iff.mpr unused,
        Option.none_or, if_pos rfl, deliver_index]
    · rename_i settled
      rw [Message.mk.injEq]
      refine ⟨rfl, rfl, rfl, ?_⟩
      cases given : program.textArgument? site 0 with
      | none => rfl
      | some wanted =>
        refine deliver_addSandbox_of_named fun same unknown => settled ?_
        subst same
        exact ⟨given, contextNamed?_eq_none_iff.mp unknown⟩
  · rfl

/-! ## The graph -/

theorem messagesFrom_addSandbox {context : Context} (member : context ∈ partition.contexts) :
    (build conventions program
        (partition.addSandbox program name procedures entryPoints).2).value.messagesFrom context =
      ((build conventions program partition).value.messagesFrom context).map
        (readdressed conventions program partition name procedures entryPoints) := by
  rw [messagesFrom_build, messagesFrom_build, List.map_filterMap,
    Partition.population_addSandbox (ne_of_mem_contexts member)]
  congr 1
  funext site
  exact messageOf?_addSandbox context site

theorem lost_of_awaits {message : Message}
    (member : message ∈ (build conventions program partition).value.messages)
    (awaits : message.Awaits program partition name) : message.delivery = .lost := by
  obtain ⟨given, unused⟩ := awaits
  have nowhere : message.delivery.destination? = none := by
    rw [destination?_of_mem_build member, namedDestination?, given, Option.bind_some,
      ← Partition.contextNamed?_eq_find?]
    exact contextNamed?_eq_none_iff.mpr unused
  cases delivered : message.delivery with
  | lost => rfl
  | unhandled destination => simp [delivered, Delivery.destination?] at nowhere
  | handled destination handler => simp [delivered, Delivery.destination?] at nowhere

theorem replacements_addSandbox :
    ∃ later,
      (build conventions program
          (partition.addSandbox program name procedures entryPoints).2).value.replacements =
        (build conventions program partition).value.replacements ++ later ∧
      ∀ entry ∈ later, entry.context =
        .sandboxed (partition.addSandbox program name procedures entryPoints).1 := by
  rw [replacements_build, replacements_build, Partition.contexts_addSandbox, List.flatMap_append,
    List.flatMap_singleton]
  refine ⟨_, congrArg (· ++ _) (List.flatMap_congr fun context member => ?_), ?_⟩
  · rw [Partition.population_addSandbox (ne_of_mem_contexts member)]
  · intro entry made
    obtain ⟨turn, _, made⟩ := List.mem_flatMap.mp made
    exact (Treatment.replacement?_eq_some_iff.mp (Option.mem_toList.mp made)).2.2.2

variable (conventions program partition name procedures entryPoints) in
/-- A new sandbox changes nothing for the contexts that were there before, except that the messages
that its name has kept from arriving now arrive in it: those that name it, if nothing else has the
name. Handlers are replaced as before, but for entries of the new sandbox that come last. So every
message that has arrived still does, at the same place and handler. -/
theorem build_addSandbox :
    let grown : SandboxId × Partition :=
      partition.addSandbox program name procedures entryPoints
    let before := (build conventions program partition).value
    let now := (build conventions program grown.2).value
    (∀ context ∈ partition.contexts,
      now.messagesFrom context = (before.messagesFrom context).map fun message =>
        if message.Awaits program partition name then
          { message with
            delivery := .arrival (.sandboxed grown.1) (lastHandler? conventions program grown.2
              message.messageType (.sandboxed grown.1)) }
        else message) ∧
    (∀ message ∈ before.messages, message.Awaits program partition name →
      message.delivery = .lost) ∧
    (∃ later, now.replacements = before.replacements ++ later ∧
      ∀ entry ∈ later, entry.context = .sandboxed grown.1) ∧
    ∀ message ∈ before.messages, message.delivery ≠ .lost → message ∈ now.messages := by
  intro grown before now
  refine ⟨fun context => messagesFrom_addSandbox, fun message => lost_of_awaits,
    replacements_addSandbox, ?_⟩
  intro message member arrived
  have origin : message.origin ∈ partition.contexts :=
    Partition.mem_contexts_of_mem_scope (site_mem_scope_origin member)
  have kept : readdressed conventions program partition name procedures entryPoints message =
      message :=
    if_neg fun awaits => arrived (lost_of_awaits member awaits)
  have stays : message ∈ now.messagesFrom message.origin := by
    rw [messagesFrom_addSandbox origin]
    exact List.mem_map.mpr ⟨message, mem_messagesFrom.mpr ⟨member, rfl⟩, kept⟩
  exact (mem_messagesFrom.mp stays).1

/-- `main` sends a message to a worker that is not there yet, and one to itself. -/
theorem build_addSandbox_arriving :
    let conventions : Conventions := ⟨"send", "receive", "await"⟩
    let call (callee : Nat) (arguments : List (Value ProcedureId)) : Call :=
      { target := .direct ⟨callee⟩, arguments }
    let program : Program := {
      procedures := #[
        { name := "main", arity := none, calls := #[
          call 3 [.global "worker", .global "ping"],
          call 3 [.global "self", .global "ping"],
          call 5 [.computed, .global "ping"]] },
        { name := "work", arity := none, calls := #[
          call 4 [.computed, .global "ping", .function ⟨2⟩]] },
        { name := "serve", arity := none },
        { name := "send", arity := none },
        { name := "receive", arity := none },
        { name := "await", arity := none }]
      globals := .ofList [("ping", Initializer.characters "PING"),
        ("worker", Initializer.characters "worker"),
        ("self", Initializer.characters "<privileged>")] }
    let partition : Partition := { privileged := [⟨0⟩] }
    let grown := partition.addSandbox program "worker" [⟨1⟩] [⟨1⟩]
    ((build conventions program partition).value.messagesFrom .privileged).map Message.delivery =
        [.lost, .handled .privileged ⟨0⟩] ∧
      ((build conventions program grown.2).value.messagesFrom .privileged).map Message.delivery =
        [.handled (.sandboxed ⟨0⟩) ⟨2⟩, .handled .privileged ⟨0⟩] := by
  intro conventions call program partition grown
  obtain ⟨readdressed, _, _, _⟩ :=
    build_addSandbox conventions program partition "worker" [⟨1⟩] [⟨1⟩]
  have before : (build conventions program partition).value.messagesFrom .privileged =
      [⟨.privileged, ⟨⟨0⟩, 0⟩, "PING", .lost⟩,
        ⟨.privileged, ⟨⟨0⟩, 1⟩, "PING", .handled .privileged ⟨0⟩⟩] := by
    decide +kernel
  rw [readdressed .privileged Partition.privileged_mem_contexts, before]
  decide +kernel

end MessageGraph

end SandboxRpc
