import SandboxRpc.Proofs.Program.Handles
import SandboxRpc.Proofs.Snapshot.LoadedContexts
import SandboxRpc.Proofs.Snapshot.Restatement

/-!
# The handles in a loaded snapshot

Loading turns names into handles, while procedures are still being declared. All of them are good in
the end: a name that is mentioned is declared, and one that must be known is looked up.
-/

namespace SandboxRpc

/-! ## What a name is resolved to -/

section Traverse

variable {ρ σ : Type} {query : ρ → Option σ}

theorem CallTarget.query_of_traverse {target : CallTarget ρ} {callee : σ}
    (resolved : target.traverse query = some (.direct callee)) :
    ∃ name, query name = some callee := by
  cases target with
  | direct name =>
    obtain ⟨id, found, same⟩ := Option.bind_eq_some_iff.mp resolved
    cases same
    exact ⟨name, found⟩
  | indirect => cases resolved

theorem Value.query_of_traverse {operand : Value ρ} {value : Value σ} {procedure : σ}
    (resolved : operand.traverse query = some value)
    (pointer : value.stripCasts = .function procedure) : ∃ name, query name = some procedure := by
  induction operand generalizing value with
  | function name =>
    obtain ⟨id, found, same⟩ := Option.bind_eq_some_iff.mp resolved
    cases same
    cases pointer
    exact ⟨name, found⟩
  | cast inner ih =>
    obtain ⟨inside, found, same⟩ := Option.bind_eq_some_iff.mp resolved
    cases same
    exact ih found pointer
  | global name =>
    cases resolved
    cases pointer
  | int number =>
    cases resolved
    cases pointer
  | computed =>
    cases resolved
    cases pointer

theorem Success.mem_of_mapM_eq_some {items : List ρ} {results : List σ}
    (gone : items.mapM query = some results) {result : σ} (member : result ∈ results) :
    ∃ item ∈ items, query item = some result := by
  induction items generalizing results with
  | nil =>
    cases gone
    cases member
  | cons item items ih =>
    rw [List.mapM_cons] at gone
    obtain ⟨first, known, gone⟩ := Option.bind_eq_some_iff.mp gone
    obtain ⟨rest, later, same⟩ := Option.bind_eq_some_iff.mp gone
    cases same
    rcases List.mem_cons.mp member with rfl | member
    · exact ⟨item, List.mem_cons_self, known⟩
    · obtain ⟨earlier, listed, found⟩ := ih later member
      exact ⟨earlier, List.mem_cons_of_mem _ listed, found⟩

end Traverse

namespace Snapshot

variable {snapshot : Snapshot} {program : Program} {partition : Partition}

/-! ## The program -/

theorem Restates.resolved (restates : snapshot.Restates program) {site : CallSite} {call : Call}
    (made : program.call? site = some call) :
    ∃ entry : CallEntry, entry.target.traverse program.find? = some call.target ∧
      entry.arguments.mapM (·.traverse program.find?) = some call.arguments := by
  rw [Program.call?_eq] at made
  obtain ⟨entry, _, resolved⟩ :=
    Success.mem_of_mapM_eq_some (restates.bodies site.caller) (List.mem_of_getElem? made)
  obtain ⟨target, callee, resolved⟩ := Option.bind_eq_some_iff.mp resolved
  obtain ⟨arguments, passed, same⟩ := Option.bind_eq_some_iff.mp resolved
  cases same
  exact ⟨entry, callee, passed⟩

theorem Restates.targetOf (restates : snapshot.Restates program) {site : CallSite}
    {callee : ProcedureId} (direct : program.targetOf site = .direct callee) :
    callee ∈ program.procedureIds := by
  cases made : program.call? site with
  | none => simp [Program.targetOf, made] at direct
  | some call =>
    obtain ⟨entry, target, _⟩ := restates.resolved made
    have same : call.target = .direct callee := by simpa [Program.targetOf, made] using direct
    rw [same] at target
    obtain ⟨name, found⟩ := CallTarget.query_of_traverse target
    exact restates.indexed.mem_procedureIds_of_find? found

theorem Restates.argumentsOf (restates : snapshot.Restates program) {site : CallSite}
    {value : Value ProcedureId} (passed : value ∈ program.argumentsOf site) {id : ProcedureId}
    (pointer : value.stripCasts = .function id) : id ∈ program.procedureIds := by
  cases made : program.call? site with
  | none => simp [Program.argumentsOf, made] at passed
  | some call =>
    obtain ⟨entry, _, arguments⟩ := restates.resolved made
    have given : value ∈ call.arguments := by simpa [Program.argumentsOf, made] using passed
    obtain ⟨operand, _, resolved⟩ := Success.mem_of_mapM_eq_some arguments given
    obtain ⟨name, found⟩ := Value.query_of_traverse resolved pointer
    exact restates.indexed.mem_procedureIds_of_find? found

/-- What a global variable holds is mentioned, and therefore declared. -/
theorem globals_buildProgram {regions : List RegionEntry}
    (built : snapshot.buildProgram = .ok (regions, program)) {name : String} {id : ProcedureId}
    (held : program.globals[name]? = some (.function id)) :
    id ∈ program.procedureIds := by
  obtain ⟨further, describes⟩ := describes_buildProgram built
  rw [describes.globals, Option.map_eq_some_iff] at held
  obtain ⟨initializer, listed, same⟩ := held
  cases initializer with
  | function mentioned =>
    cases same
    exact describes.indexed.mem_procedureIds_of_find?
      ((describes.found mentioned).trans (if_pos (.held listed)))
  | characters text => cases same
  | other => cases same

/-- All annotations so far stand at calls, and their targets are declared. -/
theorem annotations_buildProgram {regions : List RegionEntry}
    (built : snapshot.buildProgram = .ok (regions, program)) :
    ∀ site targets, program.annotations[site]? = some targets →
      program.hasCall site ∧ ∀ id ∈ targets, id ∈ program.procedureIds := by
  obtain ⟨listed, declared, _, annotated⟩ := buildProgram_ok built
  refine (Success.foldlM_induct (fun _ state => snapshot.Restates state ∧ ∀ site targets,
    state.annotations[site]? = some targets →
      state.hasCall site ∧ ∀ id ∈ targets, id ∈ state.procedureIds) annotated ?_ ?_).2
  · refine ⟨restates_withContents declared, fun site targets known => ?_⟩
    rw [annotations_withContents declared, Std.ExtTreeMap.getElem?_empty] at known
    cases known
  · rintro _ entry state next ⟨restates, good⟩ added
    obtain ⟨here, new, present, found, rfl⟩ := annotateCall_ok added
    have newGood : ∀ id ∈ new, id ∈ state.procedureIds := by
      intro id member
      obtain ⟨name, found⟩ := found id member
      exact restates.indexed.mem_procedureIds_of_find? found
    refine ⟨restates.annotate here new, fun site targets known => ?_⟩
    show state.hasCall site ∧ ∀ id ∈ targets, id ∈ state.procedureIds
    rw [Program.annotate, Std.ExtTreeMap.getElem?_alter] at known
    split at known
    · rename_i same
      cases Std.LawfulEqOrd.eq_of_compare same
      cases known
      refine ⟨present, fun id member => ?_⟩
      cases earlier : state.annotations[here]? with
      | none =>
        rw [earlier] at member
        exact newGood id (by simpa using member)
      | some old =>
        rw [earlier] at member
        rcases List.mem_append.mp member with early | late
        · exact (good here old earlier).2 id early
        · exact newGood id late
    · exact good site targets known

theorem isClosed_buildProgram {regions : List RegionEntry}
    (built : snapshot.buildProgram = .ok (regions, program)) : program.IsClosed where
  indexed := (restates_buildProgram built).indexed
  targets _ _ direct := (restates_buildProgram built).targetOf direct
  arguments _ _ passed _ pointer := (restates_buildProgram built).argumentsOf passed pointer
  globals _ _ held := globals_buildProgram built held
  annotations := annotations_buildProgram built

/-! ## The partition -/

/-- Handing calls over leaves the entry points as they are. -/
theorem entryPointsOf_foldlM {before after : Partition} {entries : List RegionEntry}
    (handed : entries.foldlM addRegion before = .ok after) (context : Context) :
    after.entryPointsOf context = before.entryPointsOf context := by
  refine Success.foldlM_induct
    (fun _ state => state.entryPointsOf context = before.entryPointsOf context) handed rfl ?_
  intro _ region state next same added
  obtain ⟨target, _, rfl⟩ := addRegion_ok added
  rw [Partition.entryPointsOf_addRegionCall, same]

theorem entryPoints_buildPartition (indexed : program.IsIndexed) {regions : List RegionEntry}
    (built : snapshot.buildPartition program regions = .ok partition) :
    ∀ context, ∀ id ∈ partition.entryPointsOf context, id ∈ program.procedureIds := by
  obtain ⟨members, known, built⟩ := Success.bind_eq_ok_iff.mp built
  obtain ⟨handed, regions, built⟩ := Success.bind_eq_ok_iff.mp built
  obtain ⟨privileged, _, built⟩ := Success.bind_eq_ok_iff.mp built
  obtain ⟨entryPoints, chosen, same⟩ := Success.bind_eq_ok_iff.mp built
  cases same
  intro context id entry
  cases context with
  | privileged =>
    replace entry : id ∈ entryPoints := entry
    cases listed : snapshot.privilegedEntryPoints with
    | some names =>
      rw [listed] at chosen
      exact ((mem_of_lookUpAll_eq_ok indexed chosen).mp entry).1
    | none =>
      rw [listed] at chosen
      cases chosen
      exact indexed.mem_procedureIds_of_find? (Option.mem_toList.mp entry)
  | sandboxed owner =>
    replace entry : id ∈ handed.entryPointsOf (.sandboxed owner) := entry
    rw [foldl_addSandbox] at regions
    rw [entryPointsOf_foldlM regions] at entry
    cases found : members[owner.index]? with
    | none => simp [sandboxed, Partition.entryPointsOf, Partition.sandbox?, found] at entry
    | some sandbox =>
      replace entry : id ∈ sandbox.entryPoints := by
        simpa [sandboxed, Partition.entryPointsOf, Partition.sandbox?, found,
          SandboxMembers.sandbox] using entry
      obtain ⟨listed, _, made⟩ :=
        (Success.mem_iff_of_mapM_eq_ok known).mp (List.mem_of_getElem? found)
      exact ((mem_of_lookUpAll_eq_ok indexed (sandboxMembers_ok made).2.2).mp entry).1

/-- All handles in a loaded program and in its partition are good. -/
theorem handles_build (built : snapshot.build = .ok (program, partition)) :
    program.IsClosed ∧ partition.IsWithin program := by
  obtain ⟨restates, assigns⟩ := build_ok built
  obtain ⟨programBuilt, partitionBuilt⟩ := parts_of_build built
  refine ⟨isClosed_buildProgram programBuilt, ?_, ?_,
    entryPoints_buildPartition restates.indexed partitionBuilt, ?_⟩
  · intro id site member
    rcases (assigns.calls id site).mp member with ⟨present, _⟩ | ⟨name, region, _⟩
    · exact present
    · exact restates.hasCall_of_region region
  · intro site member
    obtain ⟨name, region⟩ := Option.isSome_iff_exists.mp ((assigns.regions site).mp member)
    exact restates.hasCall_of_region region
  · exact fun id member => ((assigns.privileged id).mp member).1

end Snapshot

end SandboxRpc
