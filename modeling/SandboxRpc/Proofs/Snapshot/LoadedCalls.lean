import SandboxRpc.Proofs.Snapshot.LoadedProgram

/-!
# The loop over the listed procedures

The calls of a listed procedure are added to the procedure that its name leads to. `addBody` looks
the name up, and would refuse one that is not there.

- `addBody_eq` is one round of the loop, for a procedure whose name leads to its number and which
  has no calls yet; `mapM_addBody` is the loop from there on.
- `run_addContents`: once the listed procedures are declared, each name leads to its position in the
  list, so that no look-up fails. The calls get the numbers that they have in the list, and those in
  sandboxed blocks are given back in program order.
-/

namespace SandboxRpc

namespace Snapshot

/-! ## One procedure -/

/-- The calls of a listed procedure that stand in sandboxed blocks. -/
def bodyRegions (procedure : ProcedureEntry × Nat) : List RegionEntry :=
  procedure.1.calls.zipIdx.filterMap fun call => call.1.region.map (·, ⟨⟨procedure.2⟩, call.2⟩)

/-- The calls of a snapshot that stand in sandboxed blocks, in program order. -/
def regionEntries (snapshot : Snapshot) : List RegionEntry :=
  snapshot.procedures.zipIdx.flatMap bodyRegions

/-- The calls of one procedure are numbered one after the other. -/
theorem mapM_addBodyCall {caller : ProcedureId} (entries : List CallEntry) {program : Program}
    (declared : caller.index < program.names.length) :
    (entries.mapM (addBodyCall caller)).run program =
      ((entries.zipIdx (program.callCount caller)).map fun call =>
          call.1.region.map (·, ⟨caller, call.2⟩),
        addCalls program (entries.map (caller, ·))) := by
  induction entries generalizing program with
  | nil => rfl
  | cons entry entries ih =>
    -- What the call mentions is declared first; that lengthens no body but adds procedures.
    have declares := Declares.call entry
    have fits : caller.index < (entry.declare program).2.names.length :=
      Nat.lt_of_lt_of_le declared (declares.grown program).names.length_le
    have count : (addCall caller entry program).2.callCount caller =
        program.callCount caller + 1 := by
      rw [addCall_eq, Program.callCount_eq, Program.bodyOf_addCall fits, declares.bodies,
        Program.callCount_eq]
      simp
    have first : (entry.declare program).2.callCount caller = program.callCount caller := by
      rw [Program.callCount_eq, declares.bodies, Program.callCount_eq]
    have rest := @ih (addCall caller entry program).2 (Nat.lt_of_lt_of_le declared
      (extends_addCall caller entry program).names.length_le)
    rw [List.mapM_cons]
    show (entry.region.map (·, (addCall caller entry program).1) ::
      ((entries.mapM (addBodyCall caller)).run (addCall caller entry program).2).1,
        ((entries.mapM (addBodyCall caller)).run (addCall caller entry program).2).2) = _
    rw [rest, count, addCall_eq, Program.nextCall, first]
    rfl

theorem addBody_eq {entry : ProcedureEntry} {number : Nat} {program : Program}
    (found : program.find? entry.name = some ⟨number⟩) (declared : number < program.names.length)
    (empty : program.bodyOf ⟨number⟩ = []) :
    addBody entry program =
      .ok (bodyRegions (entry, number), addCalls program (bodyEntries (entry, number))) := by
  have known : lookUp program entry.name = .ok ⟨number⟩ := lookUp_eq_ok_iff.mpr found
  have none : program.callCount ⟨number⟩ = 0 := by rw [Program.callCount_eq, empty, List.length_nil]
  simp only [addBody, known, bind, Except.bind, mapM_addBodyCall entry.calls declared, none,
    List.filterMap_map]
  rfl

/-! ## All procedures -/

/-- The program is ready for the calls of these procedures, the first of which has this number. -/
structure IsReady (entries : List ProcedureEntry) (start : Nat) (program : Program) : Prop where
  found : ∀ index entry, entries[index]? = some entry →
    program.find? entry.name = some ⟨start + index⟩
  enough : start + entries.length ≤ program.names.length
  empty : ∀ id, start ≤ id.index → program.bodyOf id = []

namespace IsReady

variable {entry : ProcedureEntry} {entries : List ProcedureEntry} {start : Nat} {program : Program}
  (ready : IsReady (entry :: entries) start program)
include ready

theorem addBody : addBody entry program =
    .ok (bodyRegions (entry, start), addCalls program (bodyEntries (entry, start))) := by
  have enough := ready.enough
  rw [List.length_cons] at enough
  exact addBody_eq (ready.found 0 entry rfl) (by omega) (ready.empty ⟨start⟩ (Nat.le_refl start))

/-- Only the procedure itself gets calls, and what it mentions goes behind the known names. -/
theorem next : IsReady entries (start + 1) (addCalls program (bodyEntries (entry, start))) := by
  have enough := ready.enough
  rw [List.length_cons] at enough
  have adds : AddsCalls program (bodyEntries (entry, start))
      (addCalls program (bodyEntries (entry, start))) := by
    refine AddsCalls.of_declared fun item member => ?_
    obtain ⟨call, _, rfl⟩ := List.mem_map.mp member
    show start < program.names.length
    omega
  constructor
  · intro index later listed
    rw [Nat.add_right_comm, Nat.add_assoc]
    exact adds.grown.find? (ready.found (index + 1) later listed)
  · have longer := adds.grown.names.length_le
    omega
  · intro id behind
    -- None of the new calls is for a procedure further behind.
    obtain ⟨added, resolved, body⟩ := adds.bodies id
    rw [filter_bodyEntries, if_neg (Nat.ne_of_lt behind)] at resolved
    have none : added = [] := by simpa using resolved.symm
    rw [body, ready.empty id (Nat.le_of_succ_le behind), none, List.append_nil]

end IsReady

theorem mapM_addBody {entries : List ProcedureEntry} {start : Nat} {program : Program}
    (ready : IsReady entries start program) :
    (entries.mapM addBody).run program =
      .ok ((entries.zipIdx start).map bodyRegions,
        addCalls program ((entries.zipIdx start).flatMap bodyEntries)) := by
  -- Each round leaves the program ready for the procedures that are still to come.
  induction entries generalizing start program with
  | nil => rfl
  | cons entry entries ih =>
    rw [List.mapM_cons, List.zipIdx_cons, List.map_cons, List.flatMap_cons]
    show (addBody entry program >>= fun first => (entries.mapM addBody).run first.2 >>= fun rest =>
      .ok (first.1 :: rest.1, rest.2)) = _
    rw [ready.addBody]
    show ((entries.mapM addBody).run (addCalls program (bodyEntries (entry, start))) >>= _) = _
    rw [ih ready.next, addCalls, addCalls, addCalls, List.foldl_append]
    rfl

/-- What globals mention goes behind the listed names. -/
theorem isReady_globals {entries : List ProcedureEntry} {listed : Program}
    (lists : Lists (entries.map ProcedureEntry.name) listed)
    (globals : List (String × Initializer String)) :
    IsReady entries 0 (globals.foldl addGlobal listed) := by
  obtain ⟨grown, kept⟩ := foldl_addGlobal globals listed
  constructor
  · intro index entry member
    refine grown.find? ((lists.indexed _ _).mpr ?_)
    rw [lists.same]
    simp [member]
  · have longer := grown.names.length_le
    rw [lists.same, List.length_map] at longer
    omega
  · intro id _
    rw [kept, lists.empty]

/-- Adding the contents of a snapshot cannot fail once its procedures are declared. -/
theorem run_addContents {snapshot : Snapshot} {listed : Program}
    (declared : declareListed snapshot.procedures = .ok listed) :
    (addContents snapshot).run listed =
      .ok (snapshot.regionEntries, snapshot.withContents listed) := by
  have ready := isReady_globals (lists_declareListed declared) snapshot.globals.toList
  show ((snapshot.procedures.mapM addBody).run (snapshot.globals.toList.foldl addGlobal listed) >>=
    fun added => .ok (added.1.flatten, added.2)) = _
  rw [mapM_addBody ready]
  rfl

/-! ## Loaded programs -/

theorem buildProgram_ok {snapshot : Snapshot} {program : Program} {regions : List RegionEntry}
    (built : snapshot.buildProgram = .ok (regions, program)) :
    ∃ listed, declareListed snapshot.procedures = .ok listed ∧
      regions = snapshot.regionEntries ∧
      snapshot.annotations.foldlM annotateCall (snapshot.withContents listed) = .ok program := by
  obtain ⟨listed, declared, built⟩ := Success.bind_eq_ok_iff.mp built
  rw [run_addContents declared] at built
  have built : (snapshot.annotations.foldlM annotateCall (snapshot.withContents listed) >>=
      fun program => pure (snapshot.regionEntries, program)) = .ok (regions, program) := built
  obtain ⟨annotated, added, same⟩ := Success.bind_eq_ok_iff.mp built
  cases same
  exact ⟨listed, declared, rfl, added⟩

/-- What is built is a program, and from it and its calls in sandboxed blocks a partition. -/
theorem parts_of_build {snapshot : Snapshot} {program : Program} {partition : Partition}
    (built : snapshot.build = .ok (program, partition)) :
    snapshot.buildProgram = .ok (snapshot.regionEntries, program) ∧
      snapshot.buildPartition program snapshot.regionEntries = .ok partition := by
  obtain ⟨⟨regions, loaded⟩, programBuilt, rest⟩ := Success.bind_eq_ok_iff.mp built
  obtain ⟨assigned, partitionBuilt, same⟩ := Success.bind_eq_ok_iff.mp rest
  cases same
  obtain ⟨_, _, rfl, _⟩ := buildProgram_ok programBuilt
  exact ⟨programBuilt, partitionBuilt⟩

theorem restates_buildProgram {snapshot : Snapshot} {program : Program}
    {regions : List RegionEntry} (built : snapshot.buildProgram = .ok (regions, program)) :
    snapshot.Restates program := by
  obtain ⟨listed, declared, _, annotated⟩ := buildProgram_ok built
  refine Success.foldlM_induct (fun _ => snapshot.Restates) annotated
    (restates_withContents declared) ?_
  intro _ entry state next restates added
  obtain ⟨site, targets, _, _, rfl⟩ := annotateCall_ok added
  exact restates.annotate site targets

end Snapshot

end SandboxRpc
