import SandboxRpc.Proofs.Partition.Contexts
import SandboxRpc.Proofs.Partition.Growth

/-!
# How often calls are stored

The stored calls of a context may repeat: a call is stored once for every time that its caller is
listed. Handing a call over to a sandbox never repeats it, since a sandbox that has the call already
stays as it is.
-/

namespace SandboxRpc

namespace Program

variable {program : Program} {site : CallSite}

theorem procedureIds_nodup : program.procedureIds.Nodup := by
  rw [procedureIds]
  exact List.Pairwise.map _ (fun a b different same => different (by cases same; rfl))
    List.nodup_range

theorem callsOf_nodup {id : ProcedureId} : (program.callsOf id).Nodup := by
  rw [callsOf]
  exact List.Pairwise.map _ (fun a b different same => different (by cases same; rfl))
    List.nodup_range

theorem count_flatMap_callsOf (procedures : List ProcedureId) :
    (procedures.flatMap program.callsOf).count site =
      if program.hasCall site then procedures.count site.caller else 0 := by
  induction procedures with
  | nil => simp
  | cons id procedures ih =>
    rw [List.flatMap_cons, List.count_append, ih, callsOf_nodup.count]
    simp only [mem_callsOf]
    by_cases present : program.hasCall site
    · by_cases same : site.caller = id
      · simp [present, same, Nat.add_comm]
      · have other : id ≠ site.caller := fun equal => same equal.symm
        simp [present, same, other]
    · simp [present]

end Program

namespace Partition

variable {partition : Partition} {program : Program} {site : CallSite}

theorem count_population_privileged (runs : site ∈ partition.scope program .privileged) :
    (partition.population program .privileged).count site =
      partition.privileged.count site.caller := by
  obtain ⟨⟨_, present⟩, outside⟩ := mem_scope_privileged.mp runs
  have kept : (!partition.regionCalls.contains site) = true := by
    simpa [← Std.ExtTreeSet.contains_iff_mem] using outside
  rw [population_privileged,
    List.count_filter (p := fun site => !partition.regionCalls.contains site) kept,
    Program.count_flatMap_callsOf, if_pos present]

theorem count_sandboxCalls_addRegionCall {id owner : SandboxId} {other : CallSite}
    (known : id.index < partition.sandboxes.size) :
    ((partition.addRegionCall id site).sandboxCalls owner).count other =
      if id = owner ∧ site = other then max 1 ((partition.sandboxCalls owner).count other)
      else (partition.sandboxCalls owner).count other := by
  rw [addRegionCall, if_pos known]
  simp only [sandboxCalls, sandbox?, Array.getElem?_modify]
  by_cases same : id = owner
  · subst same
    rw [if_pos rfl, Array.getElem?_eq_getElem known]
    simp only [Option.map_some, Option.getD_some, true_and]
    generalize partition.sandboxes[id.index] = sandbox
    by_cases stored : site ∈ sandbox.calls
    · rw [if_pos stored]
      have positive : 0 < sandbox.calls.count site := List.count_pos_iff.mpr stored
      split
      · rename_i equal
        subst equal
        omega
      · rfl
    · rw [if_neg stored, List.count_append, List.count_singleton]
      have none : sandbox.calls.count site = 0 := List.count_eq_zero.mpr stored
      by_cases equal : site = other
      · subst equal
        simp [none]
      · simp [equal]
  · have apart : id.index ≠ owner.index := fun equal => same (by cases id; cases owner; simp_all)
    simp [same, apart]

end Partition

end SandboxRpc
