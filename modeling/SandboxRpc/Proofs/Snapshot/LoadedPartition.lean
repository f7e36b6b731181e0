import SandboxRpc.Proofs.Partition.Growth
import SandboxRpc.Proofs.Snapshot.LoadedCalls

/-!
# The partition of a snapshot

`Snapshot.buildPartition` makes the sandboxes, hands the calls in sandboxed blocks over to them, and
leaves the rest to the privileged context. `Assigns` lists what comes out: which calls a sandbox
has, which calls stand in a sandboxed block, and which procedures are privileged.
-/

namespace SandboxRpc

namespace Snapshot

variable {snapshot : Snapshot} {program : Program} {partition : Partition}

/-! ## Names that must be known -/

theorem mem_of_lookUpAll_eq_ok (indexed : program.IsIndexed) {names : List String}
    {ids : List ProcedureId} (known : lookUpAll program names = .ok ids) {id : ProcedureId} :
    id ∈ ids ↔ id ∈ program.procedureIds ∧ program.nameOf id ∈ names := by
  rw [Success.mem_iff_of_mapM_eq_ok known]
  constructor
  · rintro ⟨name, listed, found⟩
    obtain ⟨declared, named⟩ := (lookUp_eq_ok_iff_nameOf indexed).mp found
    exact ⟨declared, named ▸ listed⟩
  · rintro ⟨declared, listed⟩
    exact ⟨_, listed, (lookUp_eq_ok_iff_nameOf indexed).mpr ⟨declared, rfl⟩⟩

/-! ## Sandboxes -/

/-- The sandbox that is made from its members. -/
def SandboxMembers.sandbox (program : Program) (members : SandboxMembers) : Sandbox where
  name := members.name
  entryPoints := members.entryPoints
  calls := members.procedures.flatMap program.callsOf

theorem sandboxMembers_ok {entry : SandboxEntry} {members : SandboxMembers}
    (known : sandboxMembers program entry = .ok members) :
    members.name = entry.name ∧ lookUpAll program entry.procedures = .ok members.procedures ∧
      lookUpAll program entry.entryPoints = .ok members.entryPoints := by
  obtain ⟨procedures, found, rest⟩ := Success.bind_eq_ok_iff.mp known
  obtain ⟨entryPoints, foundToo, same⟩ := Success.bind_eq_ok_iff.mp rest
  cases same
  exact ⟨rfl, found, foundToo⟩

/-- The partition into sandboxes, before any call is handed over. -/
def sandboxed (program : Program) (members : List SandboxMembers) : Partition where
  sandboxes := (members.map (·.sandbox program)).toArray

theorem foldl_addSandbox (members : List SandboxMembers) :
    members.foldl (fun partition sandbox =>
        (partition.addSandbox program sandbox.name sandbox.procedures sandbox.entryPoints).2) {} =
      sandboxed program members := by
  suffices general : ∀ partition : Partition, members.foldl (fun partition sandbox =>
        (partition.addSandbox program sandbox.name sandbox.procedures sandbox.entryPoints).2)
        partition =
      { partition with
        sandboxes := partition.sandboxes ++ (members.map (·.sandbox program)).toArray } by
    rw [general, sandboxed]
    simp
  induction members with
  | nil => simp
  | cons sandbox members ih =>
    intro partition
    rw [List.foldl_cons, ih]
    simp [Partition.addSandbox, SandboxMembers.sandbox]

theorem sandboxNames_sandboxed {members : List SandboxMembers}
    (known : snapshot.sandboxes.mapM (sandboxMembers program) = .ok members) :
    (sandboxed program members).sandboxNames = snapshot.sandboxes.map SandboxEntry.name := by
  rw [← Success.map_eq_of_mapM_eq_ok known fun _ _ made => (sandboxMembers_ok made).1]
  simp [sandboxed, Partition.sandboxNames, SandboxMembers.sandbox]

theorem mem_sandboxCalls_sandboxed (indexed : program.IsIndexed) {members : List SandboxMembers}
    (known : snapshot.sandboxes.mapM (sandboxMembers program) = .ok members) {id : SandboxId}
    {site : CallSite} :
    site ∈ (sandboxed program members).sandboxCalls id ↔
      program.hasCall site ∧ ∃ sandbox, snapshot.sandboxes[id.index]? = some sandbox ∧
        program.nameOf site.caller ∈ sandbox.procedures := by
  have position := Success.getElem?_of_mapM_eq_ok known id.index
  cases found : members[id.index]? with
  | none =>
    rw [found] at position
    have missing : snapshot.sandboxes[id.index]? = none :=
      Option.map_eq_none_iff.mp position.symm
    simp [sandboxed, Partition.sandboxCalls, Partition.sandbox?, found, missing]
  | some sandbox =>
    rw [found] at position
    obtain ⟨entry, listed, same⟩ := Option.map_eq_some_iff.mp position.symm
    have owned : site ∈ (sandboxed program members).sandboxCalls id ↔
        site.caller ∈ sandbox.procedures ∧ program.hasCall site := by
      rw [← Program.mem_flatMap_callsOf]
      simp [sandboxed, Partition.sandboxCalls, Partition.sandbox?, found, SandboxMembers.sandbox]
    rw [owned, mem_of_lookUpAll_eq_ok indexed (sandboxMembers_ok same).2.1]
    constructor
    · rintro ⟨⟨_, named⟩, present⟩
      exact ⟨present, entry, listed, named⟩
    · rintro ⟨present, other, again, named⟩
      cases listed.symm.trans again
      exact ⟨⟨Program.caller_mem_procedureIds present, named⟩, present⟩

/-! ## Calls in sandboxed blocks -/

theorem regionOf?_eq_some_iff {name : String} {site : CallSite} :
    snapshot.regionOf? site = some name ↔
      ∃ procedure call, snapshot.procedures[site.caller.index]? = some procedure ∧
        procedure.calls[site.index]? = some call ∧ call.region = some name := by
  rw [regionOf?, call?, callsOf]
  cases snapshot.procedures[site.caller.index]? with
  | none => simp
  | some procedure => simp [Option.bind_eq_some_iff]

theorem mem_regionEntries {name : String} {site : CallSite} :
    (name, site) ∈ snapshot.regionEntries ↔ snapshot.regionOf? site = some name := by
  rw [regionOf?_eq_some_iff, regionEntries, List.mem_flatMap]
  constructor
  · rintro ⟨⟨procedure, number⟩, listed, member⟩
    obtain ⟨⟨call, index⟩, position, entry⟩ := List.mem_filterMap.mp member
    obtain ⟨_, region, same⟩ := Option.map_eq_some_iff.mp entry
    cases same
    exact ⟨procedure, call, List.mem_zipIdx_iff_getElem?.mp listed,
      List.mem_zipIdx_iff_getElem?.mp position, region⟩
  · rintro ⟨procedure, call, listed, position, region⟩
    refine ⟨(procedure, site.caller.index), List.mem_zipIdx_iff_getElem?.mpr listed, ?_⟩
    refine List.mem_filterMap.mpr
      ⟨(call, site.index), List.mem_zipIdx_iff_getElem?.mpr position, ?_⟩
    exact Option.map_eq_some_iff.mpr ⟨name, region, rfl⟩

/-- What handing calls over to the sandboxes of their blocks does to a partition. -/
structure HandsOver (before : Partition) (entries : List RegionEntry) (after : Partition) :
    Prop where
  names : after.sandboxNames = before.sandboxNames
  known : ∀ name site, (name, site) ∈ entries → ∃ id, before.findSandbox? name = some id
  calls : ∀ id site, site ∈ after.sandboxCalls id ↔ site ∈ before.sandboxCalls id ∨
    ∃ name, (name, site) ∈ entries ∧ before.findSandbox? name = some id
  regions : ∀ site, site ∈ after.regionCalls ↔ site ∈ before.regionCalls ∨
    ∃ name, (name, site) ∈ entries

theorem addRegion_ok {before after : Partition} {entry : RegionEntry}
    (added : addRegion before entry = .ok after) :
    ∃ id, before.findSandbox? entry.1 = some id ∧ after = before.addRegionCall id entry.2 := by
  rw [addRegion] at added
  split at added
  · rename_i id found
    cases added
    exact ⟨id, found, rfl⟩
  · cases added

namespace HandsOver

variable {before state after : Partition} {done : List RegionEntry}

theorem findSandbox? (handed : HandsOver before done after) (name : String) :
    after.findSandbox? name = before.findSandbox? name := by
  rw [Partition.findSandbox?_eq, Partition.findSandbox?_eq, handed.names]

theorem nil (partition : Partition) : HandsOver partition [] partition where
  names := rfl
  known := by simp
  calls := by simp
  regions := by simp

/-- One more call is handed over. -/
theorem snoc (handed : HandsOver before done state) {entry : RegionEntry}
    (added : addRegion state entry = .ok after) : HandsOver before (done ++ [entry]) after := by
  obtain ⟨name, site⟩ := entry
  obtain ⟨id, found, rfl⟩ := addRegion_ok added
  have bound := Partition.index_lt_of_findSandbox? found
  rw [handed.findSandbox? name] at found
  constructor
  · rw [Partition.sandboxNames_addRegionCall, handed.names]
  · intro other otherSite member
    rcases List.mem_append.mp member with old | new
    · exact handed.known other otherSite old
    · cases List.mem_singleton.mp new
      exact ⟨id, found⟩
  · intro owner other
    rw [Partition.mem_sandboxCalls_addRegionCall bound, handed.calls, or_assoc]
    apply or_congr_right
    constructor
    · rintro (⟨earlier, member, resolved⟩ | ⟨rfl, rfl⟩)
      · exact ⟨earlier, List.mem_append_left _ member, resolved⟩
      · exact ⟨name, by simp, found⟩
    · rintro ⟨earlier, member, resolved⟩
      rcases List.mem_append.mp member with old | new
      · exact .inl ⟨earlier, old, resolved⟩
      · cases List.mem_singleton.mp new
        exact .inr ⟨Option.some.inj (found.symm.trans resolved), rfl⟩
  · intro other
    rw [Partition.mem_regionCalls_addRegionCall bound, handed.regions, or_assoc]
    apply or_congr_right
    constructor
    · rintro (⟨earlier, member⟩ | rfl)
      · exact ⟨earlier, List.mem_append_left _ member⟩
      · exact ⟨name, by simp⟩
    · rintro ⟨earlier, member⟩
      rcases List.mem_append.mp member with old | new
      · exact .inl ⟨earlier, old⟩
      · cases List.mem_singleton.mp new
        exact .inr rfl

theorem foldlM {entries : List RegionEntry}
    (added : entries.foldlM addRegion before = .ok after) : HandsOver before entries after :=
  Success.foldlM_induct (fun done state => HandsOver before done state) added (nil before)
    fun _ _ _ _ handed stepped => handed.snoc stepped

end HandsOver

/-! ## Loaded partitions -/

/-- The names of the procedures that run privileged. -/
def IsPrivileged (snapshot : Snapshot) (name : String) : Prop :=
  match snapshot.privileged with
  | some names => name ∈ names
  | none => ∀ sandbox ∈ snapshot.sandboxes, name ∉ sandbox.procedures

/-- A partition assigns the calls of a program the way a snapshot says. -/
structure Assigns (snapshot : Snapshot) (program : Program) (partition : Partition) : Prop where
  names : partition.sandboxNames = snapshot.sandboxes.map SandboxEntry.name
  calls : ∀ id site, site ∈ partition.sandboxCalls id ↔
    (program.hasCall site ∧ ∃ sandbox, snapshot.sandboxes[id.index]? = some sandbox ∧
      program.nameOf site.caller ∈ sandbox.procedures) ∨
    ∃ name, snapshot.regionOf? site = some name ∧ partition.findSandbox? name = some id
  known : ∀ site name, snapshot.regionOf? site = some name →
    ∃ id, partition.findSandbox? name = some id
  regions : ∀ site, site ∈ partition.regionCalls ↔ (snapshot.regionOf? site).isSome
  privileged : ∀ id, id ∈ partition.privileged ↔
    id ∈ program.procedureIds ∧ snapshot.IsPrivileged (program.nameOf id)

theorem mem_outside (indexed : program.IsIndexed) {members : List SandboxMembers}
    (known : snapshot.sandboxes.mapM (sandboxMembers program) = .ok members) {id : ProcedureId} :
    id ∈ outside program members ↔ id ∈ program.procedureIds ∧
      ∀ sandbox ∈ snapshot.sandboxes, program.nameOf id ∉ sandbox.procedures := by
  rw [outside, List.mem_filter]
  refine and_congr_right fun declared => ?_
  simp only [List.all_eq_true, decide_eq_true_eq]
  constructor
  · intro free entry listed named
    obtain ⟨sandbox, member, same⟩ := Success.exists_of_mapM_eq_ok known listed
    refine free sandbox member ?_
    rw [mem_of_lookUpAll_eq_ok indexed (sandboxMembers_ok same).2.1]
    exact ⟨declared, named⟩
  · intro free sandbox member inside
    obtain ⟨entry, listed, same⟩ := (Success.mem_iff_of_mapM_eq_ok known).mp member
    rw [mem_of_lookUpAll_eq_ok indexed (sandboxMembers_ok same).2.1] at inside
    exact free entry listed inside.2

theorem assigns_buildPartition (indexed : program.IsIndexed)
    (built : snapshot.buildPartition program snapshot.regionEntries = .ok partition) :
    snapshot.Assigns program partition := by
  obtain ⟨members, known, built⟩ := Success.bind_eq_ok_iff.mp built
  obtain ⟨handed, regions, built⟩ := Success.bind_eq_ok_iff.mp built
  obtain ⟨privileged, chosen, built⟩ := Success.bind_eq_ok_iff.mp built
  obtain ⟨entryPoints, _, same⟩ := Success.bind_eq_ok_iff.mp built
  cases same
  rw [foldl_addSandbox] at regions
  have hands := HandsOver.foldlM regions
  refine ⟨hands.names.trans (sandboxNames_sandboxed known), ?_, ?_, ?_, ?_⟩
  · intro id site
    show site ∈ handed.sandboxCalls id ↔ _ ∨ ∃ name, _ ∧ handed.findSandbox? name = some id
    simp only [hands.calls, mem_sandboxCalls_sandboxed indexed known, mem_regionEntries,
      hands.findSandbox?]
  · intro site name region
    show ∃ id, handed.findSandbox? name = some id
    rw [hands.findSandbox?]
    exact hands.known name site (mem_regionEntries.mpr region)
  · intro site
    show site ∈ handed.regionCalls ↔ _
    simp [hands.regions, sandboxed, mem_regionEntries, Option.isSome_iff_exists]
  · intro id
    show id ∈ privileged ↔ _
    rw [IsPrivileged]
    cases listed : snapshot.privileged with
    | some names =>
      rw [listed] at chosen
      exact mem_of_lookUpAll_eq_ok indexed chosen
    | none =>
      rw [listed] at chosen
      cases chosen
      exact mem_outside indexed known

end Snapshot

end SandboxRpc
