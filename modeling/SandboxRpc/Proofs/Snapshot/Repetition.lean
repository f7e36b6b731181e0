import SandboxRpc.Proofs.Partition.Multiplicity
import SandboxRpc.Proofs.Snapshot.LoadedContexts

/-!
# Repeated calls in a loaded snapshot

A context executes a set of calls, but the analysis walks a list, in which a call may occur more
than once. It does if the snapshot lists its caller more than once for that context; a block never
repeats a call that its sandbox has anyway. `build_reports` says how often a send is reported.
-/

namespace SandboxRpc

/-! ## Reports of one call -/

/-- Whether a call sends a message of known type. -/
def Conventions.SendsMessage (conventions : Conventions) (program : Program) (site : CallSite) :
    Prop :=
  conventions.operation? program site = some .send ∧ (program.textArgument? site 1).isSome

instance (conventions : Conventions) (program : Program) (site : CallSite) :
    Decidable (conventions.SendsMessage program site) :=
  inferInstanceAs (Decidable (_ ∧ _))

namespace MessageGraph

variable (conventions : Conventions) (program : Program) (partition : Partition)

/-- A context has one message for each of its calls that send one, and no other messages. -/
def ReportsOnce (context : Context) : Prop :=
  ∀ site, ((build conventions program partition).value.messagesFrom context).countP
      (·.site = site) =
    if site ∈ partition.scope program context ∧ conventions.SendsMessage program site then 1 else 0

theorem isSome_messageOf? (context : Context) (site : CallSite) :
    (messageOf? conventions program partition context site).isSome ↔
      conventions.SendsMessage program site := by
  rw [messageOf?, Conventions.SendsMessage]
  split
  · rename_i sends
    simp [value_message?, sends]
  · rename_i silent
    simp [silent]

theorem countP_messagesFrom_build (context : Context) (site : CallSite) :
    ((build conventions program partition).value.messagesFrom context).countP (·.site = site) =
      if conventions.SendsMessage program site then (partition.population program context).count site
      else 0 := by
  have reported (stored : CallSite) :
      ((messageOf? conventions program partition context stored).map
          fun message => decide (message.site = site)).getD false ↔
        stored = site ∧ conventions.SendsMessage program site := by
    rw [← isSome_messageOf? conventions program partition context]
    cases sent : messageOf? conventions program partition context stored with
    | none =>
      simp only [Option.map_none, Option.getD_none, Bool.false_eq_true, false_iff]
      rintro ⟨rfl, impossible⟩
      rw [sent] at impossible
      cases impossible
    | some message =>
      simp only [Option.map_some, Option.getD_some, decide_eq_true_eq, (source_of_messageOf? sent).2]
      constructor
      · rintro rfl
        exact ⟨rfl, by rw [sent, Option.isSome_some]⟩
      · exact And.left
  rw [messagesFrom_build, List.countP_filterMap]
  by_cases sends : conventions.SendsMessage program site
  · rw [if_pos sends, List.count]
    exact List.countP_congr fun stored _ => by simp [reported, sends]
  · rw [if_neg sends, List.countP_eq_zero]
    intro stored _ impossible
    exact sends ((reported stored).mp impossible).2

end MessageGraph

namespace Snapshot

variable {snapshot : Snapshot} {program : Program} {partition : Partition}

/-- The procedures that a snapshot lists for a context, as often as it does. -/
def listed (snapshot : Snapshot) : Context → List String
  | .privileged => snapshot.privileged.getD []
  | .sandboxed id => (snapshot.sandboxes[id.index]?.map SandboxEntry.procedures).getD []

/-! ## Repeated names -/

/-- Different names mean different procedures, so procedures repeat as their names do. -/
theorem count_lookUpAll (indexed : program.IsIndexed) {names : List String}
    {ids : List ProcedureId} (known : lookUpAll program names = .ok ids) {id : ProcedureId}
    (declared : id ∈ program.procedureIds) : ids.count id = names.count (program.nameOf id) := by
  have named : ids.map program.nameOf = names.map fun name => name :=
    Success.map_eq_of_mapM_eq_ok known fun name id found =>
      ((lookUp_eq_ok_iff_nameOf indexed).mp found).2
  rw [List.map_id'] at named
  rw [← named, List.count, List.count, List.countP_map]
  refine List.countP_congr fun other member => ?_
  have present : other ∈ program.procedureIds :=
    ((mem_of_lookUpAll_eq_ok indexed known).mp member).1
  simp only [beq_iff_eq, Function.comp_apply]
  constructor
  · exact congrArg program.nameOf
  · exact indexed.eq_of_nameOf_eq present declared

theorem count_sandboxCalls_sandboxed (indexed : program.IsIndexed)
    {members : List SandboxMembers}
    (known : snapshot.sandboxes.mapM (sandboxMembers program) = .ok members) {id : SandboxId}
    {site : CallSite} (present : program.hasCall site) :
    ((sandboxed program members).sandboxCalls id).count site =
      (snapshot.listed (.sandboxed id)).count (program.nameOf site.caller) := by
  have position := Success.getElem?_of_mapM_eq_ok known id.index
  cases found : members[id.index]? with
  | none =>
    rw [found] at position
    have missing : snapshot.sandboxes[id.index]? = none :=
      Option.map_eq_none_iff.mp position.symm
    simp [sandboxed, Partition.sandboxCalls, Partition.sandbox?, found, listed, missing]
  | some sandbox =>
    rw [found] at position
    obtain ⟨entry, present_entry, same⟩ := Option.map_eq_some_iff.mp position.symm
    have calls : (sandboxed program members).sandboxCalls id =
        sandbox.procedures.flatMap program.callsOf := by
      simp [sandboxed, Partition.sandboxCalls, Partition.sandbox?, found, SandboxMembers.sandbox]
    rw [calls, Program.count_flatMap_callsOf, if_pos present, listed, present_entry,
      count_lookUpAll indexed (sandboxMembers_ok same).2.1 (Program.caller_mem_procedureIds present)]
    rfl

/-- Handing calls over repeats none of them. -/
theorem count_of_foldlM_addRegion {before after : Partition} {entries : List RegionEntry}
    (added : entries.foldlM addRegion before = .ok after) {id : SandboxId} {site : CallSite}
    (stored : site ∈ after.sandboxCalls id) :
    (after.sandboxCalls id).count site = max 1 ((before.sandboxCalls id).count site) := by
  -- A call that is missing is stored once, and one that is stored stays as it is.
  have bounds : (before.sandboxCalls id).count site ≤ (after.sandboxCalls id).count site ∧
      (after.sandboxCalls id).count site ≤ max 1 ((before.sandboxCalls id).count site) := by
    refine Success.foldlM_induct (fun _ state =>
      (before.sandboxCalls id).count site ≤ (state.sandboxCalls id).count site ∧
      (state.sandboxCalls id).count site ≤ max 1 ((before.sandboxCalls id).count site))
      added ⟨Nat.le_refl _, Nat.le_max_right _ _⟩ ?_
    intro _ entry state next kept stepped
    obtain ⟨owner, found, rfl⟩ := addRegion_ok stepped
    rw [Partition.count_sandboxCalls_addRegionCall (Partition.index_lt_of_findSandbox? found)]
    split
    · omega
    · exact kept
  have positive : 0 < (after.sandboxCalls id).count site := List.count_pos_iff.mpr stored
  omega

/-! ## Loaded partitions -/

/-- What a context has is stored as often as the snapshot lists it there, or once if it is there
without being listed: a procedure that is privileged by default, a call in a block. -/
structure Repeats (snapshot : Snapshot) (program : Program) (partition : Partition) : Prop where
  privileged : ∀ id ∈ partition.privileged, partition.privileged.count id =
    max 1 ((snapshot.listed .privileged).count (program.nameOf id))
  sandboxed : ∀ id, ∀ site ∈ partition.sandboxCalls id, program.hasCall site →
    (partition.sandboxCalls id).count site =
      max 1 ((snapshot.listed (.sandboxed id)).count (program.nameOf site.caller))

theorem repeats_buildPartition (indexed : program.IsIndexed)
    {entries : List RegionEntry}
    (built : snapshot.buildPartition program entries = .ok partition) :
    snapshot.Repeats program partition := by
  obtain ⟨members, known, built⟩ := Success.bind_eq_ok_iff.mp built
  obtain ⟨handed, regions, built⟩ := Success.bind_eq_ok_iff.mp built
  obtain ⟨privileged, chosen, built⟩ := Success.bind_eq_ok_iff.mp built
  obtain ⟨entryPoints, _, same⟩ := Success.bind_eq_ok_iff.mp built
  cases same
  rw [foldl_addSandbox] at regions
  constructor
  · intro id member
    show privileged.count id = _
    have positive : 0 < privileged.count id := List.count_pos_iff.mpr member
    rw [listed]
    cases given : snapshot.privileged with
    | some names =>
      rw [given] at chosen
      have declared := ((mem_of_lookUpAll_eq_ok indexed chosen).mp member).1
      rw [count_lookUpAll indexed chosen declared] at positive ⊢
      exact (Nat.max_eq_right positive).symm
    | none =>
      rw [given] at chosen
      cases chosen
      have unrepeated : (outside program members).Nodup :=
        Program.procedureIds_nodup.filter fun id => members.all (id ∉ ·.procedures)
      have once := List.nodup_iff_count.mp unrepeated id
      simp only [Option.getD_none, List.count_nil]
      omega
  · intro id site stored present
    show (handed.sandboxCalls id).count site = _
    rw [count_of_foldlM_addRegion regions stored,
      count_sandboxCalls_sandboxed indexed known present]

theorem count_population_build (built : snapshot.build = .ok (program, partition))
    {context : Context} {site : CallSite} (runs : site ∈ partition.scope program context) :
    (partition.population program context).count site =
      max 1 ((snapshot.listed context).count (program.nameOf site.caller)) := by
  obtain ⟨programBuilt, partitionBuilt⟩ := parts_of_build built
  have restates := restates_buildProgram programBuilt
  have assigns := assigns_buildPartition restates.indexed partitionBuilt
  have repeats := repeats_buildPartition restates.indexed partitionBuilt
  cases context with
  | privileged =>
    obtain ⟨⟨member, _⟩, _⟩ := Partition.mem_scope_privileged.mp runs
    rw [Partition.count_population_privileged runs]
    exact repeats.privileged _ member
  | sandboxed id =>
    have stored := Partition.mem_scope_sandboxed.mp runs
    have present : program.hasCall site := by
      rcases assigns.mem_scope_sandboxed.mp runs with ⟨present, _⟩ | ⟨name, region, _⟩
      · exact present
      · exact restates.hasCall_of_region region
    exact repeats.sandboxed id site stored present

/-- A sending call of a context is reported as often as the snapshot lists its caller there, and
once if it does not: the reports are right where no sending procedure is listed twice. -/
theorem build_reports (built : snapshot.build = .ok (program, partition))
    (conventions : Conventions) (context : Context) :
    (∀ site, ((MessageGraph.build conventions program partition).value.messagesFrom context).countP
        (·.site = site) =
      if site ∈ partition.scope program context ∧ conventions.SendsMessage program site then
        max 1 ((snapshot.listed context).count (program.nameOf site.caller))
      else 0) ∧
    (MessageGraph.ReportsOnce conventions program partition context ↔
      ∀ site ∈ partition.scope program context, conventions.SendsMessage program site →
        (snapshot.listed context).count (program.nameOf site.caller) ≤ 1) ∧
    ((snapshot.listed context).Nodup →
      MessageGraph.ReportsOnce conventions program partition context) := by
  have counted (site : CallSite) :
      ((MessageGraph.build conventions program partition).value.messagesFrom context).countP
          (·.site = site) =
        if site ∈ partition.scope program context ∧ conventions.SendsMessage program site then
          max 1 ((snapshot.listed context).count (program.nameOf site.caller))
        else 0 := by
    rw [MessageGraph.countP_messagesFrom_build]
    by_cases runs : site ∈ partition.scope program context
    · simp [runs, count_population_build built runs]
    · have none : (partition.population program context).count site = 0 :=
        List.count_eq_zero.mpr fun stored => runs (Partition.mem_scope.mpr stored)
      simp [runs, none]
  have once : MessageGraph.ReportsOnce conventions program partition context ↔
      ∀ site ∈ partition.scope program context, conventions.SendsMessage program site →
        (snapshot.listed context).count (program.nameOf site.caller) ≤ 1 := by
    constructor
    · intro reports site runs sends
      have number := reports site
      rw [counted, if_pos ⟨runs, sends⟩, if_pos ⟨runs, sends⟩] at number
      omega
    · intro bounded site
      rw [counted]
      split
      · rename_i sending
        have bound := bounded site sending.1 sending.2
        omega
      · rfl
  refine ⟨counted, once, fun nodup => once.mpr fun site _ _ => ?_⟩
  exact List.nodup_iff_count.mp nodup _

/-- The call of `serve` stands in a block of the sandbox that owns `serve`. -/
theorem build_reports_of_block :
    let snapshot : Snapshot := {
      procedures := [
        { name := "main" },
        { name := "serve", calls := [
          { target := .direct "__soaap_rpc_send_helper"
            arguments := [.computed, .global "type"]
            region := some "worker" }] }]
      globals := .ofList [("type", Initializer.characters "PING")]
      sandboxes := [{ name := "worker", procedures := ["serve"] }] }
    ∃ program partition, snapshot.build = .ok (program, partition) ∧
      MessageGraph.ReportsOnce {} program partition (.sandboxed ⟨0⟩) ∧
      ((MessageGraph.build {} program partition).value.messagesFrom (.sandboxed ⟨0⟩)).countP
        (·.site = ⟨⟨1⟩, 0⟩) = 1 := by
  intro snapshot
  have checked : snapshot.build.toOption.any (fun loaded =>
      ⟨⟨1⟩, 0⟩ ∈ loaded.2.scope loaded.1 (.sandboxed ⟨0⟩) ∧
      Conventions.SendsMessage {} loaded.1 ⟨⟨1⟩, 0⟩) = true := by
    decide +kernel
  obtain ⟨⟨program, partition⟩, built, facts⟩ := Success.exists_of_any checked
  simp only [decide_eq_true_eq] at facts
  obtain ⟨_, _, reported⟩ := build_reports built {} (.sandboxed ⟨0⟩)
  have once := reported (by decide)
  refine ⟨program, partition, built, once, ?_⟩
  rw [once, if_pos facts]

/-- The sandbox lists `serve` twice: its message is reported twice. -/
theorem not_reportsOnce_of_repetition :
    let snapshot : Snapshot := {
      procedures := [
        { name := "main" },
        { name := "serve", calls := [
          { target := .direct "__soaap_rpc_send_helper"
            arguments := [.global "destination", .global "type"] }] }]
      globals := .ofList [("destination", Initializer.characters "<privileged>"),
        ("type", Initializer.characters "PING")]
      sandboxes := [{ name := "worker", procedures := ["serve", "serve"] }] }
    ∃ program partition, snapshot.build = .ok (program, partition) ∧
      ¬ MessageGraph.ReportsOnce {} program partition (.sandboxed ⟨0⟩) ∧
      ((MessageGraph.build {} program partition).value.messagesFrom (.sandboxed ⟨0⟩)).map
        Message.site = [⟨⟨1⟩, 0⟩, ⟨⟨1⟩, 0⟩] := by
  intro snapshot
  have checked : snapshot.build.toOption.any (fun loaded =>
      ⟨⟨1⟩, 0⟩ ∈ loaded.2.scope loaded.1 (.sandboxed ⟨0⟩) ∧
      Conventions.SendsMessage {} loaded.1 ⟨⟨1⟩, 0⟩ ∧
      ((MessageGraph.build {} loaded.1 loaded.2).value.messagesFrom (.sandboxed ⟨0⟩)).map
        Message.site = [⟨⟨1⟩, 0⟩, ⟨⟨1⟩, 0⟩]) = true := by
    decide +kernel
  obtain ⟨⟨program, partition⟩, built, facts⟩ := Success.exists_of_any checked
  simp only [decide_eq_true_eq] at facts
  obtain ⟨runs, sends, sites⟩ := facts
  refine ⟨program, partition, built, fun reports => ?_, sites⟩
  have number := congrArg (List.countP (· = ⟨⟨1⟩, 0⟩)) sites
  rw [List.countP_map] at number
  have single := reports ⟨⟨1⟩, 0⟩
  rw [if_pos ⟨runs, sends⟩] at single
  exact absurd (number.symm.trans single) (by decide)

end Snapshot

end SandboxRpc
