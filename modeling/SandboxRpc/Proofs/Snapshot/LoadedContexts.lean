import SandboxRpc.Proofs.Messages.Matching
import SandboxRpc.Proofs.Snapshot.LoadedPartition

/-!
# The contexts of a loaded snapshot

What a snapshot says of a call decides where the call executes: the sandbox in whose block it
stands, the sandboxes that list its caller, or else the privileged context. `scope_build` says so
for the sets of calls that the analysis works with.
-/

namespace SandboxRpc

namespace Snapshot

variable {snapshot : Snapshot} {program : Program} {partition : Partition}

theorem build_ok (built : snapshot.build = .ok (program, partition)) :
    snapshot.Restates program ∧ snapshot.Assigns program partition := by
  obtain ⟨programBuilt, partitionBuilt⟩ := parts_of_build built
  have restates := restates_buildProgram programBuilt
  exact ⟨restates, assigns_buildPartition restates.indexed partitionBuilt⟩

namespace Assigns

variable (assigns : snapshot.Assigns program partition)
include assigns

theorem mem_scope_privileged {site : CallSite} :
    site ∈ partition.scope program .privileged ↔
      (site.caller ∈ partition.privileged ∧ program.hasCall site) ∧
        snapshot.regionOf? site = none := by
  rw [Partition.mem_scope_privileged, assigns.regions, Option.not_isSome_iff_eq_none]

theorem mem_scope_sandboxed {id : SandboxId} {site : CallSite} :
    site ∈ partition.scope program (.sandboxed id) ↔
      (program.hasCall site ∧ ∃ sandbox, snapshot.sandboxes[id.index]? = some sandbox ∧
        program.nameOf site.caller ∈ sandbox.procedures) ∨
      ∃ name, snapshot.regionOf? site = some name ∧ partition.findSandbox? name = some id := by
  rw [Partition.mem_scope_sandboxed, assigns.calls]

theorem handed_over {site : CallSite} {name : String}
    (region : snapshot.regionOf? site = some name) :
    site ∉ partition.scope program .privileged ∧
      ∃ id, partition.findSandbox? name = some id ∧
        site ∈ partition.scope program (.sandboxed id) := by
  obtain ⟨id, resolved⟩ := assigns.known site name region
  refine ⟨?_, id, resolved, assigns.mem_scope_sandboxed.mpr (.inr ⟨name, region, resolved⟩)⟩
  rw [assigns.mem_scope_privileged, region]
  rintro ⟨_, impossible⟩
  cases impossible

/-- By default the privileged context has what no sandbox has. -/
theorem privileged_iff_of_default (byDefault : snapshot.privileged = none) {site : CallSite}
    (present : program.hasCall site) :
    site ∈ partition.scope program .privileged ↔
      ∀ id, site ∉ partition.scope program (.sandboxed id) := by
  have outside : site.caller ∈ partition.privileged ↔
      ∀ sandbox ∈ snapshot.sandboxes, program.nameOf site.caller ∉ sandbox.procedures := by
    rw [assigns.privileged, IsPrivileged, byDefault]
    exact and_iff_right (Program.caller_mem_procedureIds present)
  rw [assigns.mem_scope_privileged, outside]
  constructor
  · rintro ⟨⟨free, _⟩, noRegion⟩ id member
    rcases assigns.mem_scope_sandboxed.mp member with owned | ⟨name, region, _⟩
    · obtain ⟨_, sandbox, listed, named⟩ := owned
      exact free sandbox (List.mem_of_getElem? listed) named
    · rw [noRegion] at region
      cases region
  · intro nowhere
    refine ⟨⟨?_, present⟩, ?_⟩
    · intro sandbox member named
      obtain ⟨index, listed⟩ := List.mem_iff_getElem?.mp member
      exact nowhere ⟨index⟩ (assigns.mem_scope_sandboxed.mpr
        (.inl ⟨present, sandbox, listed, named⟩))
    · rw [Option.eq_none_iff_forall_ne_some]
      intro name region
      obtain ⟨_, id, _, member⟩ := assigns.handed_over region
      exact nowhere id member

/-- By default no call is left out. -/
theorem exists_context_of_default (byDefault : snapshot.privileged = none) {site : CallSite}
    (present : program.hasCall site) :
    ∃ context ∈ partition.contexts, site ∈ partition.scope program context := by
  by_cases privileged : site ∈ partition.scope program .privileged
  · exact ⟨.privileged, Partition.privileged_mem_contexts, privileged⟩
  · rw [assigns.privileged_iff_of_default byDefault present] at privileged
    obtain ⟨id, inside⟩ := Classical.not_forall.mp privileged
    have member : site ∈ partition.scope program (.sandboxed id) := Classical.not_not.mp inside
    exact ⟨.sandboxed id, Partition.mem_contexts_of_mem_scope member, member⟩

end Assigns

/-- Every context of a loaded snapshot has exactly the calls that it should execute, and what the
analysis walks in a context are these calls. -/
theorem scope_build (built : snapshot.build = .ok (program, partition)) :
    (∀ site, program.hasCall site ↔ (snapshot.call? site).isSome) ∧
    (∀ index procedure, snapshot.procedures[index]? = some procedure →
      program.nameOf ⟨index⟩ = procedure.name) ∧
    (∀ site, site ∈ partition.scope program .privileged ↔
      (site.caller ∈ partition.privileged ∧ program.hasCall site) ∧
        snapshot.regionOf? site = none) ∧
    (∀ id, id ∈ partition.privileged ↔
      id ∈ program.procedureIds ∧ snapshot.IsPrivileged (program.nameOf id)) ∧
    (∀ id site, site ∈ partition.scope program (.sandboxed id) ↔
      (program.hasCall site ∧ ∃ sandbox, snapshot.sandboxes[id.index]? = some sandbox ∧
        program.nameOf site.caller ∈ sandbox.procedures) ∨
      ∃ name, snapshot.regionOf? site = some name ∧ partition.findSandbox? name = some id) ∧
    (∀ site name, snapshot.regionOf? site = some name →
      site ∉ partition.scope program .privileged ∧
        ∃ id, partition.findSandbox? name = some id ∧
          site ∈ partition.scope program (.sandboxed id)) ∧
    (snapshot.privileged = none → ∀ site, program.hasCall site →
      (site ∈ partition.scope program .privileged ↔
        ∀ id, site ∉ partition.scope program (.sandboxed id)) ∧
      ∃ context ∈ partition.contexts, site ∈ partition.scope program context) ∧
    (∀ context site, site ∈ partition.population program context ↔
      site ∈ partition.scope program context) ∧
    ∀ conventions, ∀ message ∈ (MessageGraph.build conventions program partition).value.messages,
      message.site ∈ partition.scope program message.origin := by
  obtain ⟨restates, assigns⟩ := build_ok built
  refine ⟨?_, ?_, ?_, assigns.privileged, ?_, ?_, ?_, ?_, ?_⟩
  · exact fun _ => restates.hasCall_iff
  · exact fun _ _ listed => restates.nameOf_listed listed
  · exact fun _ => assigns.mem_scope_privileged
  · exact fun _ _ => assigns.mem_scope_sandboxed
  · exact fun _ _ region => assigns.handed_over region
  · intro byDefault site present
    exact ⟨assigns.privileged_iff_of_default byDefault present,
      assigns.exists_context_of_default byDefault present⟩
  · exact fun _ _ => Partition.mem_scope.symm
  · exact fun _ _ member => MessageGraph.site_mem_scope_origin member

/-- The second call of `main` stands in a block of `worker`; by default `main` is privileged. -/
theorem scope_build_of_block :
    let snapshot : Snapshot := {
      procedures := [
        { name := "main", calls := [
          { target := .direct "send", arguments := [.cast (.function "receive")] },
          { target := .indirect, region := some "worker" }] },
        { name := "serve", calls := [{ target := .direct "receive" }] }]
      annotations := [{ procedure := "main", callIndex := 1, targets := ["serve"] }]
      sandboxes := [{ name := "worker", entryPoints := ["serve"], procedures := ["serve"] }] }
    ∃ program partition, snapshot.build = .ok (program, partition) ∧
      ⟨⟨0⟩, 1⟩ ∉ partition.scope program .privileged ∧
      (∃ id, ⟨⟨0⟩, 1⟩ ∈ partition.scope program (.sandboxed id)) ∧
      (⟨⟨0⟩, 0⟩ ∈ partition.scope program .privileged ↔
        ∀ id, ⟨⟨0⟩, 0⟩ ∉ partition.scope program (.sandboxed id)) := by
  intro snapshot
  have accepted : snapshot.build.isOk = true := by decide +kernel
  cases built : snapshot.build with
  | error defect =>
    rw [built] at accepted
    cases accepted
  | ok loaded =>
    obtain ⟨present, _, _, _, _, handed, default, _⟩ := scope_build built
    obtain ⟨removed, id, _, added⟩ := handed ⟨⟨0⟩, 1⟩ "worker" rfl
    have called : loaded.1.hasCall ⟨⟨0⟩, 0⟩ := (present _).mpr rfl
    exact ⟨loaded.1, loaded.2, rfl, removed, ⟨id, added⟩, (default rfl _ called).1⟩

end Snapshot

end SandboxRpc
