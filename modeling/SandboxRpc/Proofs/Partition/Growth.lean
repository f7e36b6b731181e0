import SandboxRpc.Partition

/-!
# How partitions grow

`Partition.addSandbox` gives a sandbox the calls of its procedures. It comes last, so a look-up by
name comes to it only where no earlier sandbox has the name, and all other contexts stay as they
are. `Partition.addRegionCall` then hands single calls over: the sandbox gains that call, the
privileged context loses it, and names and all other sandboxes stay as they are.
-/

namespace SandboxRpc

namespace Partition

variable {partition : Partition} {id : SandboxId} {site : CallSite} {name : String}

/-! ## Names -/

/-- The names of the sandboxes, by number. -/
def sandboxNames (partition : Partition) : List String :=
  partition.sandboxes.toList.map Sandbox.name

theorem findSandbox?_eq :
    partition.findSandbox? name = (partition.sandboxNames.idxOf? name).map SandboxId.mk := by
  obtain ⟨⟨sandboxes⟩, privileged, entryPoints, regionCalls⟩ := partition
  rw [findSandbox?, sandboxNames, List.idxOf?, List.findIdx?_map, List.findIdx?_toArray]
  rfl

theorem nameOf_sandboxed_eq_getD :
    partition.nameOf (.sandboxed id) =
      partition.sandboxNames[id.index]?.getD Program.unknownName := by
  simp [nameOf, sandbox?, sandboxNames]

theorem index_lt_of_findSandbox? (found : partition.findSandbox? name = some id) :
    id.index < partition.sandboxes.size := by
  rw [findSandbox?, Option.map_eq_some_iff] at found
  obtain ⟨index, position, rfl⟩ := found
  exact (Array.findIdx?_eq_some_iff_getElem.mp position).1

/-! ## New sandboxes -/

section AddSandbox

variable {program : Program} {procedures entryPoints : List ProcedureId}

theorem contexts_addSandbox :
    (partition.addSandbox program name procedures entryPoints).2.contexts =
      partition.contexts ++
        [.sandboxed (partition.addSandbox program name procedures entryPoints).1] := by
  simp [addSandbox, contexts, sandboxIds, List.range_succ]

theorem findSandbox?_addSandbox {wanted : String} :
    (partition.addSandbox program name procedures entryPoints).2.findSandbox? wanted =
      (partition.findSandbox? wanted).or
        (if name = wanted then
          some (partition.addSandbox program name procedures entryPoints).1
        else none) := by
  simp only [addSandbox, findSandbox?, Array.findIdx?_push, Option.map_or, beq_iff_eq]
  split
  · rfl
  · rfl

theorem population_addSandbox {context : Context}
    (other : context ≠ .sandboxed (partition.addSandbox program name procedures entryPoints).1) :
    (partition.addSandbox program name procedures entryPoints).2.population program context =
      partition.population program context := by
  cases context with
  | privileged => rfl
  | sandboxed id =>
    have apart : id.index ≠ partition.sandboxes.size := by
      rintro same
      exact other (congrArg Context.sandboxed (by cases id; cases same; rfl))
    simp [population, sandboxCalls, sandbox?, addSandbox, Array.getElem?_push, apart]

end AddSandbox

/-! ## Region calls -/

@[simp] theorem sandboxNames_addRegionCall :
    (partition.addRegionCall id site).sandboxNames = partition.sandboxNames := by
  rw [addRegionCall]
  split
  · refine List.ext_getElem? fun index => ?_
    simp only [sandboxNames, List.getElem?_map, Array.getElem?_toList, Array.getElem?_modify]
    split
    · cases partition.sandboxes[index]? with
      | none => rfl
      | some sandbox =>
        simp only [Option.map_some]
        split <;> rfl
    · rfl
  · rfl

@[simp] theorem entryPointsOf_addRegionCall {context : Context} :
    (partition.addRegionCall id site).entryPointsOf context = partition.entryPointsOf context := by
  rw [addRegionCall]
  split
  · cases context with
    | privileged => rfl
    | sandboxed owner =>
      simp only [entryPointsOf, sandbox?, Array.getElem?_modify]
      split
      · cases partition.sandboxes[owner.index]? with
        | none => rfl
        | some sandbox =>
          simp only [Option.map_some]
          split <;> rfl
      · rfl
  · rfl

theorem mem_sandboxCalls_addRegionCall (known : id.index < partition.sandboxes.size)
    {owner : SandboxId} {other : CallSite} :
    other ∈ (partition.addRegionCall id site).sandboxCalls owner ↔
      other ∈ partition.sandboxCalls owner ∨ id = owner ∧ site = other := by
  rw [addRegionCall, if_pos known]
  simp only [sandboxCalls, sandbox?, Array.getElem?_modify]
  by_cases same : id = owner
  · subst same
    rw [if_pos rfl, Array.getElem?_eq_getElem known]
    simp only [Option.map_some, Option.getD_some]
    split
    · rename_i member
      constructor
      · exact .inl
      · rintro (old | ⟨_, rfl⟩)
        · exact old
        · exact member
    · simp [eq_comm]
  · have apart : id.index ≠ owner.index := fun equal => same (by cases id; cases owner; simp_all)
    simp [same, apart]

theorem mem_regionCalls_addRegionCall (known : id.index < partition.sandboxes.size)
    {other : CallSite} :
    other ∈ (partition.addRegionCall id site).regionCalls ↔
      other ∈ partition.regionCalls ∨ site = other := by
  rw [addRegionCall, if_pos known]
  simp [or_comm]

end Partition

end SandboxRpc
