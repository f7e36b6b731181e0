import Mathlib.Data.List.Nodup
import SandboxRpc.Proofs.Snapshot.LoadedContexts

/-!
# The names of contexts

Messages and sandboxed blocks refer to contexts by name, and of several contexts with one name the
first is meant. A snapshot may give one name to two sandboxes, or the name of the privileged
context to a sandbox. `build_names` says that names identify the contexts of a loaded snapshot
exactly if it does neither, and where a message or a call ends up if it does.
-/

namespace SandboxRpc

/-! ## The first context of a name -/

theorem find?_eq_some_iff_of_pairwise {α : Type} {items : List α} {key : α → Nat}
    (ordered : items.Pairwise (key · < key ·)) {p : α → Bool} {item : α} :
    items.find? p = some item ↔
      item ∈ items ∧ p item ∧ ∀ other ∈ items, p other → key item ≤ key other := by
  induction items with
  | nil => simp
  | cons first rest ih =>
    obtain ⟨least, restOrdered⟩ := List.pairwise_cons.mp ordered
    rw [List.find?_cons]
    cases here : p first with
    | true =>
      -- All that comes later has a greater key.
      simp only [Option.some.injEq]
      constructor
      · rintro rfl
        refine ⟨List.mem_cons_self, here, fun other member _ => ?_⟩
        rcases List.mem_cons.mp member with rfl | later
        · exact Nat.le_refl _
        · exact Nat.le_of_lt (least other later)
      · rintro ⟨member, _, smallest⟩
        rcases List.mem_cons.mp member with rfl | later
        · rfl
        · have before := smallest first List.mem_cons_self here
          exact absurd (least item later) (Nat.not_lt_of_le before)
    | false =>
      rw [ih restOrdered]
      simp only [List.mem_cons, forall_eq_or_imp, here, Bool.false_eq_true, false_implies,
        true_and]
      constructor
      · rintro ⟨member, fits, smallest⟩
        exact ⟨.inr member, fits, smallest⟩
      · rintro ⟨rfl | member, fits, smallest⟩
        · rw [here] at fits
          cases fits
        · exact ⟨member, fits, smallest⟩

namespace Partition

variable {partition : Partition}

theorem sandboxIds_ordered : partition.sandboxIds.Pairwise (·.index < ·.index) := by
  rw [sandboxIds, List.pairwise_map]
  exact List.pairwise_lt_range

theorem contexts_ordered : partition.contexts.Pairwise (·.rank < ·.rank) := by
  rw [contexts, List.pairwise_cons, List.pairwise_map]
  constructor
  · intro context member
    obtain ⟨id, _, rfl⟩ := List.mem_map.mp member
    exact Nat.succ_pos _
  · exact sandboxIds_ordered.imp Nat.succ_lt_succ

theorem map_nameOf_contexts :
    partition.contexts.map partition.nameOf =
      Context.privilegedName :: partition.sandboxNames := by
  rw [contexts, List.map_cons, List.map_map]
  congr 1
  refine List.ext_getElem? fun index => ?_
  simp only [sandboxIds, sandboxNames, List.map_map, List.getElem?_map, Array.getElem?_toList]
  by_cases bound : index < partition.sandboxes.size
  · simp [bound, nameOf, sandbox?]
  · simp [bound]

theorem nameOf_injOn_iff :
    (∀ context ∈ partition.contexts, ∀ other ∈ partition.contexts,
      partition.nameOf context = partition.nameOf other → context = other) ↔
      (Context.privilegedName :: partition.sandboxNames).Nodup := by
  rw [← map_nameOf_contexts, List.nodup_map_iff_inj_on contexts_nodup]

/-- No context before this one has its name. -/
def IsFirstNamed (partition : Partition) (context : Context) : Prop :=
  ∀ other ∈ partition.contexts,
    partition.nameOf other = partition.nameOf context → context.rank ≤ other.rank

theorem find?_nameOf_eq_some_iff {context : Context} (member : context ∈ partition.contexts) :
    partition.contexts.find? (partition.nameOf · = partition.nameOf context) = some context ↔
      partition.IsFirstNamed context := by
  rw [find?_eq_some_iff_of_pairwise contexts_ordered, IsFirstNamed]
  simp [member]

theorem findSandbox?_nameOf_eq_some_iff {id : SandboxId} (member : id ∈ partition.sandboxIds) :
    partition.findSandbox? (partition.nameOf (.sandboxed id)) = some id ↔
      ∀ other ∈ partition.sandboxIds,
        partition.nameOf (.sandboxed other) = partition.nameOf (.sandboxed id) →
          id.index ≤ other.index := by
  rw [findSandbox?_eq_find?, find?_eq_some_iff_of_pairwise sandboxIds_ordered]
  simp [member]

end Partition

/-! ## Names in a loaded snapshot -/

namespace Snapshot

variable {snapshot : Snapshot} {program : Program} {partition : Partition}

/-- Names identify the contexts of a loaded snapshot: a message that names a context goes there, and
a call that stands in a block of a sandbox is handed over to that sandbox. -/
structure NamesIdentify (snapshot : Snapshot) (program : Program) (partition : Partition) :
    Prop where
  injective : ∀ context ∈ partition.contexts, ∀ other ∈ partition.contexts,
    partition.nameOf context = partition.nameOf other → context = other
  messages : ∀ context ∈ partition.contexts, ∀ conventions,
    ∀ message ∈ (MessageGraph.build conventions program partition).value.messages,
      program.textArgument? message.site 0 = some (partition.nameOf context) →
        message.delivery.destination? = some context
  regions : ∀ id ∈ partition.sandboxIds, ∀ site,
    snapshot.regionOf? site = some (partition.nameOf (.sandboxed id)) →
      partition.findSandbox? (partition.nameOf (.sandboxed id)) = some id ∧
        site ∈ partition.scope program (.sandboxed id) ∧
        site ∉ partition.scope program .privileged

/-- A message that names a context goes there if it is the first of its name. -/
theorem destination?_eq_some_iff {conventions : Conventions} {context : Context}
    (known : context ∈ partition.contexts) {message : Message}
    (member : message ∈ (MessageGraph.build conventions program partition).value.messages)
    (names : program.textArgument? message.site 0 = some (partition.nameOf context)) :
    message.delivery.destination? = some context ↔ partition.IsFirstNamed context := by
  rw [MessageGraph.destination?_of_mem_build member, MessageGraph.namedDestination?, names,
    Option.bind_some]
  exact Partition.find?_nameOf_eq_some_iff known

theorem Assigns.mem_scope_of_region (restates : snapshot.Restates program)
    (assigns : snapshot.Assigns program partition) {id : SandboxId} {site : CallSite}
    {name : String} (region : snapshot.regionOf? site = some name) :
    site ∈ partition.scope program (.sandboxed id) ↔
      partition.findSandbox? name = some id ∨
        ∃ sandbox, snapshot.sandboxes[id.index]? = some sandbox ∧
          program.nameOf site.caller ∈ sandbox.procedures := by
  have present : program.hasCall site := restates.hasCall_of_region region
  rw [assigns.mem_scope_sandboxed]
  simp [present, region, or_comm]

theorem namesIdentify_of_injective (restates : snapshot.Restates program)
    (assigns : snapshot.Assigns program partition)
    (injective : ∀ context ∈ partition.contexts, ∀ other ∈ partition.contexts,
      partition.nameOf context = partition.nameOf other → context = other) :
    snapshot.NamesIdentify program partition where
  injective := injective
  messages := by
    intro context known conventions message member names
    rw [destination?_eq_some_iff known member names]
    intro other present same
    have equal : other = context := injective other present context known same
    exact Nat.le_of_eq (congrArg Context.rank equal.symm)
  regions := by
    intro id known site region
    have first : partition.findSandbox? (partition.nameOf (.sandboxed id)) = some id := by
      rw [Partition.findSandbox?_nameOf_eq_some_iff known]
      intro other present same
      have equal : Context.sandboxed other = .sandboxed id :=
        injective _ (Partition.sandboxed_mem_contexts.mpr (Partition.mem_sandboxIds.mp present)) _
          (Partition.sandboxed_mem_contexts.mpr (Partition.mem_sandboxIds.mp known)) same
      cases equal
      exact Nat.le_refl _
    exact ⟨first, (assigns.mem_scope_of_region restates region).mpr (.inl first),
      (assigns.handed_over region).1⟩

/-- Names identify the contexts if no two sandboxes share a name and none is called like the
privileged context. In any case a message that names a context goes there if no context of that
name comes before, and a call that stands in a block of a sandbox runs there if no sandbox of that
name comes before or the sandbox owns the caller anyway. -/
theorem build_names (built : snapshot.build = .ok (program, partition)) :
    (snapshot.NamesIdentify program partition ↔
      (Context.privilegedName :: snapshot.sandboxes.map SandboxEntry.name).Nodup) ∧
    (∀ context ∈ partition.contexts, ∀ conventions,
      ∀ message ∈ (MessageGraph.build conventions program partition).value.messages,
        program.textArgument? message.site 0 = some (partition.nameOf context) →
          (message.delivery.destination? = some context ↔ partition.IsFirstNamed context)) ∧
    ∀ id ∈ partition.sandboxIds, ∀ site,
      snapshot.regionOf? site = some (partition.nameOf (.sandboxed id)) →
        (site ∈ partition.scope program (.sandboxed id) ↔
          (∀ other ∈ partition.sandboxIds,
            partition.nameOf (.sandboxed other) = partition.nameOf (.sandboxed id) →
              id.index ≤ other.index) ∨
          ∃ sandbox, snapshot.sandboxes[id.index]? = some sandbox ∧
            program.nameOf site.caller ∈ sandbox.procedures) := by
  obtain ⟨restates, assigns⟩ := build_ok built
  refine ⟨?_, fun _ known _ _ member names => destination?_eq_some_iff known member names, ?_⟩
  · rw [← assigns.names, ← Partition.nameOf_injOn_iff]
    constructor
    · exact NamesIdentify.injective
    · exact namesIdentify_of_injective restates assigns
  · intro id known site region
    rw [assigns.mem_scope_of_region restates region,
      Partition.findSandbox?_nameOf_eq_some_iff known]

/-- `main` sends a message to `worker` and has a block of `helper`. -/
theorem build_names_of_two :
    let snapshot : Snapshot := {
      procedures := [
        { name := "main", calls := [
          { target := .direct "__soaap_rpc_send_helper"
            arguments := [.global "destination", .global "type"] },
          { target := .indirect, region := some "helper" }] },
        { name := "first" },
        { name := "second" }]
      globals := .ofList [("destination", Initializer.characters "worker"),
        ("type", Initializer.characters "PING")]
      sandboxes := [{ name := "worker", procedures := ["first"] },
        { name := "helper", procedures := ["second"] }] }
    ∃ program partition, snapshot.build = .ok (program, partition) ∧
      snapshot.NamesIdentify program partition ∧
      (∃ message ∈ (MessageGraph.build {} program partition).value.messages,
        message.delivery.destination? = some (.sandboxed ⟨0⟩)) ∧
      ⟨⟨0⟩, 1⟩ ∈ partition.scope program (.sandboxed ⟨1⟩) := by
  intro snapshot
  have checked : snapshot.build.toOption.any (fun loaded =>
      .sandboxed ⟨0⟩ ∈ loaded.2.contexts ∧ ⟨1⟩ ∈ loaded.2.sandboxIds ∧
      snapshot.regionOf? ⟨⟨0⟩, 1⟩ = some (loaded.2.nameOf (.sandboxed ⟨1⟩)) ∧
      ∃ message ∈ (MessageGraph.build {} loaded.1 loaded.2).value.messages,
        loaded.1.textArgument? message.site 0 = some (loaded.2.nameOf (.sandboxed ⟨0⟩))) =
          true := by
    decide +kernel
  obtain ⟨⟨program, partition⟩, built, facts⟩ := Success.exists_of_any checked
  simp only [decide_eq_true_eq] at facts
  obtain ⟨worker, helper, region, message, member, names⟩ := facts
  have different : (Context.privilegedName :: snapshot.sandboxes.map SandboxEntry.name).Nodup := by
    decide +kernel
  have identify := (build_names built).1.mpr different
  refine ⟨program, partition, built, identify, ⟨message, member, ?_⟩, ?_⟩
  · exact identify.messages _ worker {} message member names
  · exact (identify.regions _ helper _ region).2.1

/-- Two sandboxes share a name: a message and a call meant for the second go to the first. -/
theorem not_namesIdentify_of_clash :
    let snapshot : Snapshot := {
      procedures := [
        { name := "main", calls := [
          { target := .direct "__soaap_rpc_send_helper"
            arguments := [.global "destination", .global "type"] },
          { target := .indirect, region := some "worker" }] },
        { name := "first" },
        { name := "second", calls := [
          { target := .direct "__soaap_rpc_recv_helper"
            arguments := [.computed, .global "type", .function "second"] }] }]
      globals := .ofList [("destination", Initializer.characters "worker"),
        ("type", Initializer.characters "PING")]
      sandboxes := [{ name := "worker", procedures := ["first"] },
        { name := "worker", procedures := ["second"] }] }
    ∃ program partition, snapshot.build = .ok (program, partition) ∧
      ¬ snapshot.NamesIdentify program partition ∧
      .sandboxed ⟨1⟩ ∈ partition.contexts ∧
      (∃ message ∈ (MessageGraph.build {} program partition).value.messages,
        program.textArgument? message.site 0 = some (partition.nameOf (.sandboxed ⟨1⟩)) ∧
        message.delivery.destination? = some (.sandboxed ⟨0⟩)) ∧
      snapshot.regionOf? ⟨⟨0⟩, 1⟩ = some (partition.nameOf (.sandboxed ⟨1⟩)) ∧
      ⟨⟨0⟩, 1⟩ ∉ partition.scope program (.sandboxed ⟨1⟩) := by
  intro snapshot
  have checked : snapshot.build.toOption.any (fun loaded =>
      .sandboxed ⟨1⟩ ∈ loaded.2.contexts ∧
      (∃ message ∈ (MessageGraph.build {} loaded.1 loaded.2).value.messages,
        loaded.1.textArgument? message.site 0 = some (loaded.2.nameOf (.sandboxed ⟨1⟩)) ∧
        message.delivery.destination? = some (.sandboxed ⟨0⟩)) ∧
      snapshot.regionOf? ⟨⟨0⟩, 1⟩ = some (loaded.2.nameOf (.sandboxed ⟨1⟩)) ∧
      ⟨⟨0⟩, 1⟩ ∉ loaded.2.scope loaded.1 (.sandboxed ⟨1⟩)) = true := by
    decide +kernel
  obtain ⟨⟨program, partition⟩, built, facts⟩ := Success.exists_of_any checked
  simp only [decide_eq_true_eq] at facts
  obtain ⟨second, ⟨message, member, names, destination⟩, facts⟩ := facts
  refine ⟨program, partition, built, fun identify => ?_, second,
    ⟨message, member, names, destination⟩, facts⟩
  have misdirected := identify.messages _ second {} message member names
  rw [destination] at misdirected
  cases misdirected

end Snapshot

end SandboxRpc
