import Mathlib.Data.List.Chain
import SandboxRpc.Proofs.Messages.Treatment

/-!
# The history of replacements

The handlers that a context registers for one message type, in order, make a history. A message
graph records each point of it where the handler changes: the entries for a context and a type are
the `changes` of that history, and they lead from the first handler to the one in force.

`build_replacements` says so of the graph, of the warnings that go with the entries, and of the
handlers that messages meet.
-/

namespace SandboxRpc

/-! ## Changes along a list -/

section Changes

variable {α : Type} [DecidableEq α]

/-- The neighbours in a list that differ. -/
def changes (values : List α) : List (α × α) :=
  (values.zip values.tail).filter fun pair => pair.1 ≠ pair.2

theorem changes_cons_cons (first second : α) (rest : List α) :
    changes (first :: second :: rest) =
      if first = second then changes (second :: rest)
      else (first, second) :: changes (second :: rest) := by
  by_cases same : first = second
  · simp [changes, same]
  · simp [changes, same]

theorem changes_concat (values : List α) (last : α) :
    changes (values ++ [last]) = changes values ++
      (values.getLast?.bind fun before =>
        if before = last then none else some (before, last)).toList := by
  induction values with
  | nil => rfl
  | cons first rest ih =>
    cases rest with
    | nil =>
      by_cases same : first = last
      · simp [changes, same]
      · simp [changes, same]
    | cons second rest =>
      rw [List.cons_append] at ih ⊢
      rw [List.cons_append, changes_cons_cons, changes_cons_cons, ih, List.getLast?_cons_cons]
      split
      · rfl
      · rw [List.cons_append]

theorem head?_of_changes {values : List α} {pair : α × α}
    (first : (changes values).head? = some pair) : values.head? = some pair.1 := by
  induction values with
  | nil => cases first
  | cons value rest ih =>
    cases rest with
    | nil => cases first
    | cons next rest =>
      rw [changes_cons_cons] at first
      split at first
      · rename_i same
        rw [same]
        exact ih first
      · cases first
        rfl

/-- A change starts from where the one before it has led. -/
theorem isChain_changes (values : List α) :
    (changes values).IsChain fun change next => change.2 = next.1 := by
  induction values with
  | nil => exact .nil
  | cons value rest ih =>
    cases rest with
    | nil => exact .nil
    | cons next rest =>
      rw [changes_cons_cons]
      split
      · exact ih
      · refine List.isChain_cons.mpr ⟨fun later first => ?_, ih⟩
        exact Option.some.inj (head?_of_changes first)

/-- The last change leads to the last value. -/
theorem getLast?_of_changes (values : List α) :
    values.getLast? = ((changes values).getLast?.map Prod.snd).or values.head? := by
  induction values with
  | nil => rfl
  | cons value rest ih =>
    cases rest with
    | nil => rfl
    | cons next rest =>
      rw [changes_cons_cons, List.getLast?_cons_cons, ih]
      split
      · rename_i same
        rw [same]
        rfl
      · rw [List.getLast?_cons]
        cases (changes (next :: rest)).getLast? <;> rfl

end Changes

/-! ## Replacements of one type -/

variable {conventions : Conventions} {program : Program} {context : Context}

theorem Conventions.handlersFor_singleton (site : CallSite) (messageType : String) :
    conventions.handlersFor program [site] messageType =
      match conventions.treatment program site with
      | .registered registeredType handler => if registeredType = messageType then [handler] else []
      | _ => [] := by
  rw [handlersFor, List.filterMap_cons, registration?_eq]
  cases conventions.treatment program site with
  | registered registeredType handler =>
    by_cases same : registeredType = messageType
    · simp [same]
    · simp [same]
  | _ => rfl

theorem Treatment.replacement?_eq_some_iff {treatment : Treatment}
    {before : String → Option ProcedureId} {entry : Replacement} :
    treatment.replacement? context before = some entry ↔
      treatment = .registered entry.messageType entry.successor ∧
        before entry.messageType = some entry.replaced ∧ entry.replaced ≠ entry.successor ∧
          entry.context = context := by
  cases treatment with
  | registered messageType handler =>
    simp only [replacement?, Option.bind_eq_some_iff, Option.ite_none_left_eq_some, registered.injEq]
    constructor
    · rintro ⟨replaced, found, different, same⟩
      cases same
      exact ⟨⟨rfl, rfl⟩, found, different, rfl⟩
    · rintro ⟨⟨rfl, rfl⟩, found, different, rfl⟩
      exact ⟨entry.replaced, found, different, rfl⟩
  | _ => simp

/-- The replacements that calls make for one type are the changes of handler for that type. -/
theorem Conventions.replacements_of_type (calls : List CallSite) (messageType : String) :
    ((inTurn (fun earlier site =>
        (conventions.replacement? program context earlier site).toList) calls).filter
      (·.messageType = messageType)).map (fun entry => (entry.replaced, entry.successor)) =
      changes (conventions.handlersFor program calls messageType) := by
  -- A replacement depends on the calls before it, so the last call is split off.
  induction calls using List.reverseRecOn with
  | nil => rfl
  | append_singleton earlier site ih =>
    rw [inTurn_concat, List.filter_append, List.map_append, ih, handlersFor_append,
      handlersFor_singleton, replacement?]
    cases treated : conventions.treatment program site with
    | registered registeredType handler =>
      by_cases same : registeredType = messageType
      · subst same
        simp only [↓reduceIte, changes_concat, Treatment.replacement?]
        congr 1
        cases (conventions.handlersFor program earlier registeredType).getLast? with
        | none => rfl
        | some replaced => by_cases same : replaced = handler <;> simp [same]
      · -- A call that registers for another type makes no replacement for this one.
        have none : ((Treatment.registered registeredType handler).replacement? context
            fun messageType => (conventions.handlersFor program earlier messageType).getLast?).toList.filter
              (·.messageType = messageType) = [] := by
          refine List.filter_eq_nil_iff.mpr fun entry made => ?_
          obtain ⟨registered, _⟩ :=
            Treatment.replacement?_eq_some_iff.mp (Option.mem_toList.mp made)
          cases registered
          simpa using same
        rw [none]
        simp [same]
    | _ => simp

/-! ## The graph -/

def Warning.replacement? : Warning → Option Replacement
  | .handlerReplaced entry => some entry
  | _ => none

theorem Warning.filter_message (warnings : List Warning) :
    warnings.filter (·.message = "duplicate handler, later registration wins") =
      (warnings.filterMap Warning.replacement?).map .handlerReplaced := by
  induction warnings with
  | nil => rfl
  | cons warning rest ih =>
    rw [List.filter_cons, List.filterMap_cons, ih]
    cases warning <;> simp [Warning.message, Warning.replacement?]

namespace MessageGraph

variable (conventions : Conventions) (program : Program) (partition : Partition)

theorem replacements_build :
    (build conventions program partition).value.replacements =
      partition.contexts.flatMap fun context =>
        inTurn (fun earlier site =>
            (conventions.replacement? program context earlier site).toList)
          (partition.population program context) := by
  show (registries conventions program partition).value.flatMap (·.2.replacements) = _
  rw [value_registries, List.flatMap_map]
  congr 1
  funext context
  exact Registry.replacements_ofCalls conventions program context _

theorem entries_build (context : Context) (messageType : String) :
    ((build conventions program partition).value.replacements.filter fun entry =>
        entry.context = context ∧ entry.messageType = messageType).map
          (fun entry => (entry.replaced, entry.successor)) =
      changes (conventions.handlersFor program (partition.population program context)
        messageType) := by
  have ofContext : (build conventions program partition).value.replacements.filter
        (·.context = context) =
      inTurn (fun earlier site => (conventions.replacement? program context earlier site).toList)
        (partition.population program context) := by
    rw [replacements_build]
    refine Partition.filter_flatMap_contexts ?_ ?_ context
    · intro origin entry member
      obtain ⟨turn, _, made⟩ := List.mem_flatMap.mp member
      exact (Treatment.replacement?_eq_some_iff.mp (Option.mem_toList.mp made)).2.2.2
    · intro origin absent
      rw [Partition.population_of_not_mem_contexts absent]
      rfl
  rw [← Conventions.replacements_of_type, ← ofContext, List.filter_filter]
  simp only [Bool.decide_and, Bool.and_comm]

theorem replacements_of_warnings :
    (build conventions program partition).warnings.filterMap Warning.replacement? =
      (build conventions program partition).value.replacements := by
  have early (context : Context) (earlier : List CallSite) (site : CallSite) :
      (((conventions.treatment program site).receiveWarning? site).toList ++
        (conventions.replacement? program context earlier site).toList.map
          Warning.handlerReplaced).filterMap Warning.replacement? =
        (conventions.replacement? program context earlier site).toList := by
    rw [Conventions.replacement?]
    cases conventions.treatment program site with
    | registered messageType handler => simp [Warning.replacement?, Function.comp_def]
    | _ => rfl
  have late (site : CallSite) :
      ((conventions.treatment program site).sendWarning? site).bind Warning.replacement? = none := by
    cases conventions.treatment program site with
    | sent messageType isNamed => cases isNamed <;> rfl
    | _ => rfl
  rw [warnings_build, List.filterMap_append, List.filterMap_flatMap, List.filterMap_flatMap,
    replacements_build]
  simp only [filterMap_inTurn, early, List.filterMap_filterMap, late]
  simp

/-- The entries for a context and a type are the changes in the history of its handlers: they lead
from the first handler to the one that messages meet. They are listed by context and then by the
position of the call that replaces, and for each there is one warning. -/
theorem build_replacements :
    let built : Logged MessageGraph := build conventions program partition
    let handlers := fun context =>
      conventions.handlersFor program (partition.population program context)
    let entries := fun context messageType => built.value.replacements.filter fun entry =>
      entry.context = context ∧ entry.messageType = messageType
    (∀ context messageType,
      (entries context messageType).map (fun entry => (entry.replaced, entry.successor)) =
        changes (handlers context messageType)) ∧
    (∀ context messageType,
      (entries context messageType).IsChain (fun entry next => entry.successor = next.replaced) ∧
      ∀ first, (entries context messageType).head? = some first →
        (handlers context messageType).head? = some first.replaced) ∧
    (∀ message ∈ built.value.messages, ∀ context, message.delivery.destination? = some context →
      message.delivery.handler? =
        ((entries context message.messageType).getLast?.map Replacement.successor).or
          (handlers context message.messageType).head?) ∧
    built.warnings.filter (·.message = "duplicate handler, later registration wins") =
      built.value.replacements.map .handlerReplaced ∧
    (∀ entry, (Warning.handlerReplaced entry).fields program partition =
      [("context", .quoted (partition.nameOf entry.context)),
        ("message_type", .text entry.messageType),
        ("replaced", .quoted (program.nameOf entry.replaced)),
        ("by", .quoted (program.nameOf entry.successor))]) ∧
    built.value.replacements = partition.contexts.flatMap fun context =>
      inTurn (fun earlier site => (conventions.replacement? program context earlier site).toList)
        (partition.population program context) := by
  intro built handlers entries
  have history (context : Context) (messageType : String) :
      (entries context messageType).map (fun entry => (entry.replaced, entry.successor)) =
        changes (handlers context messageType) :=
    entries_build conventions program partition context messageType
  refine ⟨history, ?_, ?_, ?_, fun _ => rfl, replacements_build conventions program partition⟩
  · intro context messageType
    constructor
    · have chain := isChain_changes (handlers context messageType)
      rwa [← history, List.isChain_map] at chain
    · intro first found
      have change : (changes (handlers context messageType)).head? =
          some (first.replaced, first.successor) := by
        rw [← history, List.head?_map, found]
        rfl
      exact head?_of_changes change
  · intro message member context destination
    rw [handler?_of_mem_build member, destination, Option.bind_some, getLast?_of_changes]
    congr 1
    show (changes (handlers context message.messageType)).getLast?.map Prod.snd = _
    rw [← history, List.getLast?_map, Option.map_map]
    rfl
  · rw [Warning.filter_message, replacements_of_warnings]

/-- `main` sends itself a message, and then registers `first`, `second` and `first` again. -/
theorem build_replacements_alternating :
    let call (callee : Nat) (arguments : List (Value ProcedureId)) : Call :=
      { target := .direct ⟨callee⟩, arguments }
    let program : Program := {
      procedures := #[
        { name := "main", arity := none, calls := #[
          call 3 [.global "self", .global "ping"],
          call 4 [.computed, .global "ping", .function ⟨1⟩],
          call 4 [.computed, .global "ping", .function ⟨2⟩],
          call 4 [.computed, .global "ping", .cast (.function ⟨1⟩)]] },
        { name := "first", arity := none },
        { name := "second", arity := none },
        { name := "__soaap_rpc_send_helper", arity := none },
        { name := "__soaap_rpc_recv_helper", arity := none }]
      globals := .ofList [("ping", Initializer.characters "PING"),
        ("self", Initializer.characters "<privileged>")] }
    let partition : Partition := { privileged := [⟨0⟩] }
    let built := build {} program partition
    let entries := built.value.replacements.filter fun entry =>
      entry.context = .privileged ∧ entry.messageType = "PING"
    entries.map (fun entry => (entry.replaced, entry.successor)) = [(⟨1⟩, ⟨2⟩), (⟨2⟩, ⟨1⟩)] ∧
      ∃ message ∈ built.value.messages, message.messageType = "PING" ∧
        message.delivery.destination? = some .privileged ∧
        message.delivery.handler? = some ⟨1⟩ := by
  intro call program partition built entries
  obtain ⟨history, _, delivered, _⟩ := build_replacements {} program partition
  have registered : Conventions.handlersFor {} program (partition.population program .privileged)
      "PING" = [⟨1⟩, ⟨2⟩, ⟨1⟩] := by
    decide +kernel
  have changed : entries.map (fun entry => (entry.replaced, entry.successor)) =
      changes [⟨1⟩, ⟨2⟩, ⟨1⟩] := by
    rw [← registered]
    exact history .privileged "PING"
  have sent : ∃ message ∈ built.value.messages, message.messageType = "PING" ∧
      message.delivery.destination? = some .privileged := by
    decide +kernel
  refine ⟨changed, ?_⟩
  obtain ⟨message, member, typed, destined⟩ := sent
  refine ⟨message, member, typed, destined, ?_⟩
  have last : entries.getLast?.map Replacement.successor = some ⟨1⟩ := by
    have final := congrArg (fun pairs => pairs.getLast?.map Prod.snd) changed
    simpa [changes] using final
  rw [delivered message member .privileged destined, typed]
  show (entries.getLast?.map Replacement.successor).or _ = some ⟨1⟩
  rw [last, Option.some_or]

end MessageGraph

end SandboxRpc
