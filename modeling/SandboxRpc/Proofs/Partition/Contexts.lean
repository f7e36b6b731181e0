import SandboxRpc.Messages.Graph
import SandboxRpc.Proofs.Program.Growth

/-!
# The contexts of a partition

`Partition.contexts` lists the privileged context and then the sandboxes, each once and in ascending
order. A context outside this list runs nothing.

- `contexts_nodup` and `sandboxed_mem_contexts` describe the list;
- `mem_scope_privileged` and `mem_scope_sandboxed`: which calls run in a context;
- `filter_flatMap_contexts`: what is collected context by context can be told apart again;
- `contextNamed?_eq_find?`: a name means the first context of that name.
-/

namespace SandboxRpc

namespace Partition

variable {partition : Partition} {program : Program} {context : Context}

/-! ## The list of contexts -/

theorem mem_sandboxIds {id : SandboxId} :
    id ∈ partition.sandboxIds ↔ id.index < partition.sandboxes.size := by
  cases id
  simp [sandboxIds]

theorem privileged_mem_contexts : .privileged ∈ partition.contexts :=
  List.mem_cons_self

theorem sandboxed_mem_contexts {id : SandboxId} :
    .sandboxed id ∈ partition.contexts ↔ id.index < partition.sandboxes.size := by
  simp [contexts, mem_sandboxIds]

theorem contexts_nodup : partition.contexts.Nodup := by
  have sandboxes : (partition.sandboxIds.map Context.sandboxed).Nodup := by
    rw [sandboxIds, List.map_map]
    exact List.Pairwise.map _ (fun a b different same => different (by cases same; rfl))
      List.nodup_range
  rw [contexts, List.nodup_cons]
  exact ⟨by simp, sandboxes⟩

/-- A sandbox that the partition lacks runs nothing. -/
theorem population_of_not_mem_contexts (absent : context ∉ partition.contexts) :
    partition.population program context = [] := by
  cases context with
  | privileged => exact absurd privileged_mem_contexts absent
  | sandboxed id =>
    rw [sandboxed_mem_contexts, Nat.not_lt] at absent
    simp [population, sandboxCalls, sandbox?, absent]

/-! ## The calls of a context -/

theorem mem_contexts_of_mem_scope {context : Context} {site : CallSite}
    (runs : site ∈ partition.scope program context) : context ∈ partition.contexts := by
  refine Decidable.not_not.mp fun absent => ?_
  rw [mem_scope, population_of_not_mem_contexts absent] at runs
  cases runs

theorem population_privileged :
    partition.population program .privileged =
      (partition.privileged.flatMap program.callsOf).filter
        fun site => !partition.regionCalls.contains site := by
  rw [List.filter_flatMap]
  rfl

theorem mem_scope_privileged {site : CallSite} :
    site ∈ partition.scope program .privileged ↔
      (site.caller ∈ partition.privileged ∧ program.hasCall site) ∧
        site ∉ partition.regionCalls := by
  rw [mem_scope, population_privileged, List.mem_filter, Program.mem_flatMap_callsOf]
  simp [← Std.ExtTreeSet.contains_iff_mem]

theorem mem_scope_sandboxed {id : SandboxId} {site : CallSite} :
    site ∈ partition.scope program (.sandboxed id) ↔ site ∈ partition.sandboxCalls id := by
  rw [mem_scope, population]

/-! ## Collecting by context -/

theorem filter_flatMap_of_nodup {α β : Type} [DecidableEq α] {keys : List α} {key : β → α}
    {group : α → List β} (grouped : ∀ k, ∀ item ∈ group k, key item = k) (nodup : keys.Nodup)
    (wanted : α) :
    (keys.flatMap group).filter (key · = wanted) = if wanted ∈ keys then group wanted else [] := by
  induction keys with
  | nil => rfl
  | cons k rest ih =>
    obtain ⟨fresh, restNodup⟩ := List.nodup_cons.mp nodup
    rw [List.flatMap_cons, List.filter_append, ih restNodup]
    by_cases same : k = wanted
    · subst same
      have all : (group k).filter (key · = k) = group k :=
        List.filter_eq_self.mpr fun item member => by simpa using grouped k item member
      simp [all, fresh]
    · have none : (group k).filter (key · = wanted) = [] :=
        List.filter_eq_nil_iff.mpr fun item member => by
          simpa [grouped k item member] using same
      simp [none, Ne.symm same]

/-- What is collected of all contexts, and is nothing for a context that runs nothing, can be told
apart by context. -/
theorem filter_flatMap_contexts {β : Type} {key : β → Context} {group : Context → List β}
    (grouped : ∀ k, ∀ item ∈ group k, key item = k)
    (absent : ∀ k, k ∉ partition.contexts → group k = []) (wanted : Context) :
    (partition.contexts.flatMap group).filter (key · = wanted) = group wanted := by
  rw [filter_flatMap_of_nodup grouped contexts_nodup]
  split
  · rfl
  · rename_i missing
    exact (absent wanted missing).symm

/-! ## Contexts by name -/

theorem nameOf_sandboxed {index : Nat} (bound : index < partition.sandboxes.size) :
    partition.nameOf (.sandboxed ⟨index⟩) = partition.sandboxes[index].name := by
  simp [nameOf, sandbox?, bound]

theorem findSandbox?_eq_find? {name : String} :
    partition.findSandbox? name =
      partition.sandboxIds.find? fun id => partition.nameOf (.sandboxed id) = name := by
  rw [findSandbox?, sandboxIds, List.find?_map]
  congr 1
  ext index
  rw [Array.findIdx?_eq_some_iff_getElem, List.find?_range_eq_some]
  constructor
  · rintro ⟨bound, named, first⟩
    refine ⟨by simpa [nameOf_sandboxed bound] using named, List.mem_range.mpr bound, ?_⟩
    intro earlier before
    simpa [nameOf_sandboxed (Nat.lt_trans before bound)] using first earlier before
  · rintro ⟨named, bound, first⟩
    rw [List.mem_range] at bound
    refine ⟨bound, by simpa [nameOf_sandboxed bound] using named, ?_⟩
    intro earlier before
    simpa [nameOf_sandboxed (Nat.lt_trans before bound)] using first earlier before

/-- A name means the first context that has it. -/
theorem contextNamed?_eq_find? {name : String} :
    MessageGraph.contextNamed? partition name =
      partition.contexts.find? (partition.nameOf · = name) := by
  rw [MessageGraph.contextNamed?, contexts, List.find?_cons]
  by_cases privileged : name = Context.privilegedName
  · simp [privileged, nameOf]
  · have other : partition.nameOf .privileged ≠ name := Ne.symm privileged
    rw [if_neg privileged, findSandbox?_eq_find?, decide_eq_false other, List.find?_map]
    rfl

end Partition

end SandboxRpc
