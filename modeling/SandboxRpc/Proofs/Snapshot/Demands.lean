import SandboxRpc.Proofs.Snapshot.LoadedPartition
import SandboxRpc.Proofs.Snapshot.Mentions
import SandboxRpc.Proofs.Turns

/-!
# Well-formed snapshots

`Snapshot.demands` lists all that is checked while a snapshot is built, in the order of the checks.
Each demand speaks of the snapshot alone, whatever the program under construction knows at that
point: names that come up later count, since all of them are declared before the first is looked
up.

- `Snapshot.IsWellFormed` states the demands by the parts of a snapshot;
- `Checks` joins a computation to its demands, and is closed under `bind`, `mapM` and `foldlM`;
- `build_checks`: a snapshot is built exactly if it is well formed, and is otherwise refused for
  the first demand that it does not meet.
-/

namespace SandboxRpc

namespace Snapshot

/-! ## Demands -/

inductive Demand where
  /-- The name of a listed procedure is not among the earlier ones. -/
  | new (earlier : List String) (name : String)
  | known (name : String)
  /-- A call is listed at this position for a procedure. -/
  | called (procedure : String) (index : Nat)
  | declared (sandbox : String)
deriving DecidableEq, Repr

/-- The calls that are listed for the procedure of a name; an unlisted one has none. -/
def callsNamed (snapshot : Snapshot) (name : String) : List CallEntry :=
  ((snapshot.procedures.find? (·.name = name)).map ProcedureEntry.calls).getD []

namespace Demand

def Met (snapshot : Snapshot) : Demand → Prop
  | new earlier name => name ∉ earlier
  | known name => snapshot.Knows name
  | called procedure index => index < (snapshot.callsNamed procedure).length
  | declared sandbox => ∃ entry ∈ snapshot.sandboxes, entry.name = sandbox

instance (snapshot : Snapshot) : (demand : Demand) → Decidable (demand.Met snapshot)
  | new earlier name => inferInstanceAs (Decidable (name ∉ earlier))
  | known name => inferInstanceAs (Decidable (snapshot.Knows name))
  | called procedure index =>
    inferInstanceAs (Decidable (index < (snapshot.callsNamed procedure).length))
  | declared sandbox =>
    inferInstanceAs (Decidable (∃ entry ∈ snapshot.sandboxes, entry.name = sandbox))

/-- What is wrong with a snapshot that does not meet the demand. -/
def defect : Demand → Defect
  | new _ name => .duplicateProcedure name
  | known name => .unknownProcedure name
  | called procedure index => .unknownCallSite procedure index
  | declared sandbox => .unknownSandbox sandbox

end Demand

def AnnotationEntry.demands (entry : AnnotationEntry) : List Demand :=
  .known entry.procedure :: .called entry.procedure entry.callIndex :: entry.targets.map .known

def SandboxEntry.demands (entry : SandboxEntry) : List Demand :=
  (entry.procedures ++ entry.entryPoints).map .known

/-- The sandboxes that calls name as the owners of their blocks, in program order. -/
def regionNames (snapshot : Snapshot) : List String :=
  snapshot.procedures.flatMap fun procedure => procedure.calls.filterMap CallEntry.region

def listingDemands (snapshot : Snapshot) : List Demand :=
  inTurn (fun earlier entry => [.new (earlier.map ProcedureEntry.name) entry.name])
    snapshot.procedures

/-- All demands on a snapshot, in the order in which they are checked. -/
def demands (snapshot : Snapshot) : List Demand :=
  snapshot.listingDemands ++
  snapshot.annotations.flatMap AnnotationEntry.demands ++
  (snapshot.sandboxes.flatMap SandboxEntry.demands ++
    (snapshot.regionNames.map .declared ++
      ((snapshot.privileged.getD []).map .known ++
        (snapshot.privilegedEntryPoints.getD []).map .known)))

/-- What is wrong first, if some of the demands are not met. -/
def firstDefect? (snapshot : Snapshot) (demands : List Demand) : Option Defect :=
  (demands.find? fun demand => ¬ demand.Met snapshot).map Demand.defect

/-- The demands on a snapshot, part by part. -/
structure IsWellFormed (snapshot : Snapshot) : Prop where
  distinct : (snapshot.procedures.map ProcedureEntry.name).Nodup
  annotations : ∀ entry ∈ snapshot.annotations, snapshot.Knows entry.procedure ∧
    entry.callIndex < (snapshot.callsNamed entry.procedure).length ∧
    ∀ target ∈ entry.targets, snapshot.Knows target
  sandboxes : ∀ entry ∈ snapshot.sandboxes, (∀ name ∈ entry.procedures, snapshot.Knows name) ∧
    ∀ name ∈ entry.entryPoints, snapshot.Knows name
  regions : ∀ procedure ∈ snapshot.procedures, ∀ call ∈ procedure.calls, ∀ name,
    call.region = some name → ∃ sandbox ∈ snapshot.sandboxes, sandbox.name = name
  privileged : ∀ names, snapshot.privileged = some names → ∀ name ∈ names, snapshot.Knows name
  entryPoints : ∀ names, snapshot.privilegedEntryPoints = some names →
    ∀ name ∈ names, snapshot.Knows name

variable {snapshot : Snapshot}

theorem met_listing_iff (procedures : List ProcedureEntry) :
    (∀ demand ∈ inTurn (fun earlier entry =>
        [Demand.new (earlier.map ProcedureEntry.name) entry.name]) procedures,
      demand.Met snapshot) ↔ (procedures.map ProcedureEntry.name).Nodup := by
  induction procedures using List.reverseRecOn with
  | nil => simp [inTurn]
  | append_singleton procedures last ih =>
    rw [inTurn_concat, List.forall_mem_append, ih, List.forall_mem_singleton, List.map_append,
      List.nodup_append]
    simp only [Demand.Met, List.map_cons, List.map_nil, List.mem_singleton]
    constructor
    · rintro ⟨distinct, new⟩
      refine ⟨distinct, List.nodup_singleton _, ?_⟩
      rintro name member _ rfl rfl
      exact new member
    · rintro ⟨distinct, _, apart⟩
      exact ⟨distinct, fun member => apart _ member _ rfl rfl⟩

theorem met_known_iff {names : List String} :
    (∀ demand ∈ names.map Demand.known, demand.Met snapshot) ↔
      ∀ name ∈ names, snapshot.Knows name := by
  simp [Demand.Met]

theorem met_getD_iff {names : Option (List String)} :
    (∀ demand ∈ (names.getD []).map Demand.known, demand.Met snapshot) ↔
      ∀ given, names = some given → ∀ name ∈ given, snapshot.Knows name := by
  cases names with
  | none => simp
  | some given => simp [Demand.Met]

theorem met_regions_iff :
    (∀ demand ∈ snapshot.regionNames.map Demand.declared, demand.Met snapshot) ↔
      ∀ procedure ∈ snapshot.procedures, ∀ call ∈ procedure.calls, ∀ name,
        call.region = some name → ∃ sandbox ∈ snapshot.sandboxes, sandbox.name = name := by
  rw [List.forall_mem_map, regionNames, List.forall_mem_flatMap]
  refine forall₂_congr fun procedure _ => ?_
  simp only [List.mem_filterMap, Demand.Met]
  constructor
  · intro declared call member name region
    exact declared name ⟨call, member, region⟩
  · rintro declared name ⟨call, member, region⟩
    exact declared call member name region

theorem isWellFormed_iff :
    snapshot.IsWellFormed ↔ ∀ demand ∈ snapshot.demands, demand.Met snapshot := by
  have annotations (entry : AnnotationEntry) :
      (∀ demand ∈ entry.demands, demand.Met snapshot) ↔ snapshot.Knows entry.procedure ∧
        entry.callIndex < (snapshot.callsNamed entry.procedure).length ∧
        ∀ target ∈ entry.targets, snapshot.Knows target := by
    rw [AnnotationEntry.demands, List.forall_mem_cons, List.forall_mem_cons, met_known_iff]
    rfl
  have sandboxes (entry : SandboxEntry) :
      (∀ demand ∈ entry.demands, demand.Met snapshot) ↔
        (∀ name ∈ entry.procedures, snapshot.Knows name) ∧
        ∀ name ∈ entry.entryPoints, snapshot.Knows name := by
    rw [SandboxEntry.demands, met_known_iff, List.forall_mem_append]
  simp only [demands, listingDemands, List.forall_mem_append, met_listing_iff,
    List.forall_mem_flatMap, annotations, sandboxes, met_regions_iff, met_getD_iff]
  constructor
  · intro formed
    exact ⟨⟨formed.distinct, formed.annotations⟩, formed.sandboxes, formed.regions,
      formed.privileged, formed.entryPoints⟩
  · rintro ⟨⟨distinct, annotated⟩, sandboxed, regions, privileged, entryPoints⟩
    exact ⟨distinct, annotated, sandboxed, regions, privileged, entryPoints⟩

theorem firstDefect?_eq_none_iff {demands : List Demand} :
    snapshot.firstDefect? demands = none ↔ ∀ demand ∈ demands, demand.Met snapshot := by
  rw [firstDefect?, Option.map_eq_none_iff, List.find?_eq_none]
  simp

/-! ## Computations that check demands -/

def refusal? {α : Type} : Except Defect α → Option Defect
  | .ok _ => none
  | .error defect => some defect

/-- A computation fails for the first of these demands that a snapshot does not meet, and only for
one of them. -/
def Checks {α : Type} (snapshot : Snapshot) (outcome : Except Defect α) (demands : List Demand) :
    Prop :=
  refusal? outcome = snapshot.firstDefect? demands

namespace Checks

variable {α β : Type}

theorem pure (value : α) : snapshot.Checks (pure value) [] := rfl

theorem of_met {outcome : Except Defect α} {demand : Demand} {demands : List Demand}
    (met : demand.Met snapshot) (rest : snapshot.Checks outcome demands) :
    snapshot.Checks outcome (demand :: demands) := by
  simpa [Checks, firstDefect?, met] using rest

theorem of_not_met {demand : Demand} {demands : List Demand} (unmet : ¬ demand.Met snapshot) :
    snapshot.Checks (.error demand.defect : Except Defect α) (demand :: demands) := by
  simp [Checks, refusal?, firstDefect?, unmet]

theorem single {outcome : Except Defect α} {demand : Demand}
    (met : demand.Met snapshot → ∃ value, outcome = .ok value)
    (unmet : ¬ demand.Met snapshot → outcome = .error demand.defect) :
    snapshot.Checks outcome [demand] := by
  by_cases meets : demand.Met snapshot
  · obtain ⟨value, rfl⟩ := met meets
    exact of_met meets (pure value)
  · rw [unmet meets]
    exact of_not_met meets

theorem bind {outcome : Except Defect α} {next : α → Except Defect β} {first second : List Demand}
    (now : snapshot.Checks outcome first)
    (later : ∀ value, outcome = .ok value → snapshot.Checks (next value) second) :
    snapshot.Checks (outcome >>= next) (first ++ second) := by
  have either : snapshot.firstDefect? (first ++ second) =
      (snapshot.firstDefect? first).or (snapshot.firstDefect? second) := by
    rw [firstDefect?, List.find?_append, Option.map_or]
    rfl
  rw [Checks, either]
  cases outcome with
  | error defect =>
    -- The rest is not run, and its demands do not count.
    have here : some defect = snapshot.firstDefect? first := now
    rw [← here]
    rfl
  | ok value =>
    have passed : none = snapshot.firstDefect? first := now
    rw [← passed]
    exact later value rfl

theorem map {outcome : Except Defect α} {demands : List Demand}
    (checks : snapshot.Checks outcome demands) (f : α → β) :
    snapshot.Checks (outcome >>= fun value => Pure.pure (f value)) demands := by
  have both := checks.bind fun value _ => pure (f value)
  rwa [List.append_nil] at both

theorem mapM {step : α → Except Defect β} {give : α → List Demand}
    (each : ∀ item, snapshot.Checks (step item) (give item)) (items : List α) :
    snapshot.Checks (items.mapM step) (items.flatMap give) := by
  induction items with
  | nil => exact pure []
  | cons item items ih =>
    rw [List.mapM_cons, List.flatMap_cons]
    exact (each item).bind fun result _ => ih.map (result :: ·)

/-- A step is only taken in a state that the steps before it have led to. -/
theorem foldlM {step : β → α → Except Defect β} {start : β} {give : List α → α → List Demand}
    (each : ∀ done item state, done.foldlM step start = .ok state →
      snapshot.Checks (step state item) (give done item)) (items : List α) :
    snapshot.Checks (items.foldlM step start) (inTurn give items) := by
  induction items using List.reverseRecOn with
  | nil => exact pure start
  | append_singleton items last ih =>
    rw [inTurn_concat, List.foldlM_append]
    refine ih.bind fun state reached => ?_
    rw [List.foldlM_cons]
    have checks := (each items last state reached).map id
    exact checks

end Checks

/-! ## The listed procedures -/

theorem checks_declareListed :
    snapshot.Checks (declareListed snapshot.procedures) snapshot.listingDemands := by
  refine Checks.foldlM (fun done entry program declared => ?_) snapshot.procedures
  have names : program.names = done.map ProcedureEntry.name := (lists_declareListed declared).same
  have taken : program.find? entry.name = none ↔ entry.name ∉ done.map ProcedureEntry.name := by
    rw [(lists_declareListed declared).indexed.find?_eq_none_iff, names]
  refine Checks.single (fun new => ?_) fun repeated => ?_
  · rw [taken.mpr new]
    exact ⟨_, rfl⟩
  · cases found : program.find? entry.name with
    | none => exact absurd (taken.mp found) repeated
    | some id => rfl

/-! ## Names that are looked up -/

/-- A program under construction that has all names of its snapshot already. -/
structure Settles (snapshot : Snapshot) (program : Program) : Prop where
  restates : snapshot.Restates program
  known : ∀ name, name ∈ program.names ↔ snapshot.Knows name

theorem settles_withContents {listed : Program}
    (declared : declareListed snapshot.procedures = .ok listed) :
    snapshot.Settles (snapshot.withContents listed) where
  restates := restates_withContents declared
  known _ := mem_names_withContents declared

namespace Settles

variable {program : Program} (settles : snapshot.Settles program)
include settles

theorem annotate (site : CallSite) (targets : List ProcedureId) :
    snapshot.Settles (program.annotate site targets) where
  restates := settles.restates.annotate site targets
  known name := by
    rw [Program.names_annotate]
    exact settles.known name

theorem find?_eq_none_iff {name : String} :
    program.find? name = none ↔ ¬ snapshot.Knows name := by
  rw [settles.restates.indexed.find?_eq_none_iff, settles.known]

theorem checks_lookUp (name : String) : snapshot.Checks (lookUp program name) [.known name] := by
  rw [lookUp]
  cases found : program.find? name with
  | none => exact Checks.single (absurd · (settles.find?_eq_none_iff.mp found)) fun _ => rfl
  | some id =>
    refine Checks.single (fun _ => ⟨id, rfl⟩) fun unknown => ?_
    rw [settles.find?_eq_none_iff.mpr unknown] at found
    cases found

theorem checks_lookUpAll (names : List String) :
    snapshot.Checks (lookUpAll program names) (names.map .known) := by
  have checks := Checks.mapM settles.checks_lookUp names
  rwa [← List.map_eq_flatMap] at checks

theorem checks_lookUpOr (default : List ProcedureId) (names : Option (List String)) :
    snapshot.Checks (lookUpOr program default names) ((names.getD []).map .known) := by
  cases names with
  | none => exact Checks.pure default
  | some given => exact settles.checks_lookUpAll given

end Settles

/-! ## Annotations -/

theorem find?_key_eq_some {α : Type} {items : List α} {key : α → String}
    (distinct : (items.map key).Nodup) {item : α} (member : item ∈ items) :
    items.find? (key · = key item) = some item := by
  induction items with
  | nil => cases member
  | cons first rest ih =>
    obtain ⟨absent, distinctRest⟩ := List.nodup_cons.mp distinct
    rcases List.mem_cons.mp member with rfl | later
    · simp
    · have other : key first ≠ key item := fun same => absent (same ▸ List.mem_map_of_mem later)
      rw [List.find?_cons, decide_eq_false other]
      exact ih distinctRest later

theorem Restates.callsOf_eq_callsNamed {program : Program} (restates : snapshot.Restates program)
    {name : String} {id : ProcedureId} (found : program.find? name = some id) :
    snapshot.callsOf id = snapshot.callsNamed name := by
  obtain ⟨further, names⟩ := restates.listed
  have distinct := restates.indexed.distinct
  rw [restates.indexed, ← names] at found
  rw [← names] at distinct
  rw [callsOf, callsNamed]
  congr 2
  cases listed : snapshot.procedures[id.index]? with
  | some procedure =>
    -- The procedure with this number is the only one of the name.
    have bound := (List.getElem?_eq_some_iff.mp listed).1
    rw [List.getElem?_append_left (by simpa using bound), List.getElem?_map, listed,
      Option.map_some, Option.some.injEq] at found
    have first := find?_key_eq_some (List.nodup_append.mp distinct).1 (List.mem_of_getElem? listed)
    rw [found] at first
    exact first.symm
  | none =>
    -- A procedure behind the listed ones has none of their names.
    have beyond : snapshot.procedures.length ≤ id.index := List.getElem?_eq_none_iff.mp listed
    rw [List.getElem?_append_right (by simpa using beyond)] at found
    have unlisted : name ∉ snapshot.procedures.map ProcedureEntry.name := fun member =>
      (List.nodup_append.mp distinct).2.2 name member name (List.mem_of_getElem? found) rfl
    symm
    rw [List.find?_eq_none]
    intro procedure member same
    exact unlisted (List.mem_map.mpr ⟨procedure, member, of_decide_eq_true same⟩)

theorem Settles.checks_annotated {program : Program} (settles : snapshot.Settles program)
    (entry : AnnotationEntry) :
    snapshot.Checks (annotateCall program entry) entry.demands := by
  refine (settles.checks_lookUp entry.procedure).bind fun id known => ?_
  have present : program.hasCall ⟨id, entry.callIndex⟩ ↔
      (Demand.called entry.procedure entry.callIndex).Met snapshot := by
    have calls := settles.restates.callsOf_eq_callsNamed (lookUp_eq_ok_iff.mp known)
    rw [settles.restates.hasCall_iff, call?, calls]
    simp [Demand.Met]
  -- The site is checked before the targets are looked up.
  show snapshot.Checks (if program.hasCall ⟨id, entry.callIndex⟩ then _ else _) _
  split
  · rename_i called
    exact Checks.of_met (present.mp called) ((settles.checks_lookUpAll entry.targets).map _)
  · rename_i missing
    exact Checks.of_not_met fun met => missing (present.mpr met)

theorem settles_of_annotated {program annotated : Program} {entries : List AnnotationEntry}
    (settles : snapshot.Settles program)
    (added : entries.foldlM annotateCall program = .ok annotated) :
    snapshot.Settles annotated := by
  refine Success.foldlM_induct (fun _ => snapshot.Settles) added settles ?_
  intro _ entry state next settles stepped
  obtain ⟨site, targets, _, _, rfl⟩ := annotateCall_ok stepped
  exact settles.annotate site targets

theorem checks_buildProgram :
    snapshot.Checks snapshot.buildProgram
      (snapshot.listingDemands ++ snapshot.annotations.flatMap AnnotationEntry.demands) := by
  refine checks_declareListed.bind fun listed declared => ?_
  -- In between, the names of the listed procedures are looked up, and are all there.
  rw [run_addContents declared, ← inTurn_const]
  refine Checks.map ?_ (Prod.mk snapshot.regionEntries)
  -- Earlier annotations add no names, so all of them meet the same ones.
  refine Checks.foldlM (fun done entry program added => ?_) snapshot.annotations
  exact (settles_of_annotated (settles_withContents declared) added).checks_annotated entry

theorem settles_buildProgram {program : Program} {regions : List RegionEntry}
    (built : snapshot.buildProgram = .ok (regions, program)) :
    regions = snapshot.regionEntries ∧ snapshot.Settles program := by
  obtain ⟨listed, declared, same, annotated⟩ := buildProgram_ok built
  exact ⟨same, settles_of_annotated (settles_withContents declared) annotated⟩

/-! ## The partition -/

theorem Settles.checks_sandboxMembers {program : Program} (settles : snapshot.Settles program)
    (entry : SandboxEntry) : snapshot.Checks (sandboxMembers program entry) entry.demands := by
  rw [SandboxEntry.demands, List.map_append]
  exact (settles.checks_lookUpAll entry.procedures).bind fun procedures _ =>
    (settles.checks_lookUpAll entry.entryPoints).map (SandboxMembers.mk entry.name procedures ·)

theorem map_regionEntries : snapshot.regionEntries.map Prod.fst = snapshot.regionNames := by
  have names (procedure : ProcedureEntry) (number : Nat) :
      (bodyRegions (procedure, number)).map Prod.fst =
        procedure.calls.filterMap CallEntry.region := by
    rw [bodyRegions, List.map_filterMap]
    conv_rhs => rw [← List.zipIdx_map_fst 0 procedure.calls, List.filterMap_map]
    congr 1
    funext call
    simp [Option.map_map, Function.comp_def]
  rw [regionEntries, List.map_flatMap, regionNames]
  conv_rhs => rw [← List.zipIdx_map_fst 0 snapshot.procedures, List.flatMap_map]
  exact List.flatMap_congr fun procedure _ => names procedure.1 procedure.2

theorem checks_addRegions {program : Program} {members : List SandboxMembers}
    (known : snapshot.sandboxes.mapM (sandboxMembers program) = .ok members) :
    snapshot.Checks (snapshot.regionEntries.foldlM addRegion (sandboxed program members))
      (snapshot.regionNames.map .declared) := by
  have demanded : snapshot.regionNames.map Demand.declared =
      inTurn (fun _ entry => [.declared entry.1]) snapshot.regionEntries := by
    rw [inTurn_const, ← map_regionEntries, List.map_map, List.map_eq_flatMap]
    rfl
  rw [demanded]
  -- The sandboxes are all there before the first call is handed over.
  refine Checks.foldlM (fun done entry partition handed => ?_) snapshot.regionEntries
  have names : partition.sandboxNames = snapshot.sandboxes.map SandboxEntry.name :=
    (HandsOver.foldlM handed).names.trans (sandboxNames_sandboxed known)
  have missing : partition.findSandbox? entry.1 = none ↔
      ¬ ∃ sandbox ∈ snapshot.sandboxes, sandbox.name = entry.1 := by
    rw [Partition.findSandbox?_eq, Option.map_eq_none_iff, List.idxOf?_eq_none_iff, names,
      List.mem_map]
  rw [addRegion]
  cases found : partition.findSandbox? entry.1 with
  | none => exact Checks.single (absurd · (missing.mp found)) fun _ => rfl
  | some id =>
    refine Checks.single (fun _ => ⟨_, rfl⟩) fun undeclared => ?_
    rw [missing.mpr undeclared] at found
    cases found

theorem Settles.checks_buildPartition {program : Program} (settles : snapshot.Settles program) :
    snapshot.Checks (snapshot.buildPartition program snapshot.regionEntries)
      (snapshot.sandboxes.flatMap SandboxEntry.demands ++
        (snapshot.regionNames.map .declared ++
          ((snapshot.privileged.getD []).map .known ++
            (snapshot.privilegedEntryPoints.getD []).map .known))) := by
  refine (Checks.mapM settles.checks_sandboxMembers snapshot.sandboxes).bind fun members known => ?_
  rw [foldl_addSandbox]
  refine (checks_addRegions known).bind fun partition _ => ?_
  refine (settles.checks_lookUpOr _ snapshot.privileged).bind fun privileged _ => ?_
  exact (settles.checks_lookUpOr _ snapshot.privilegedEntryPoints).map _

/-! ## Snapshots -/

theorem checks_build : snapshot.Checks snapshot.build snapshot.demands := by
  refine checks_buildProgram.bind fun (regions, program) built => ?_
  obtain ⟨rfl, settles⟩ := settles_buildProgram built
  exact settles.checks_buildPartition.map _

/-- A snapshot is built exactly if it is well formed, and otherwise refused for the first demand
that it does not meet. The look-ups of the loop over the listed procedures add no demand: they
cannot fail. -/
theorem build_checks (snapshot : Snapshot) :
    ((∃ loaded, snapshot.build = .ok loaded) ↔ snapshot.IsWellFormed) ∧
    (∀ defect, snapshot.build = .error defect ↔
      snapshot.firstDefect? snapshot.demands = some defect) ∧
    ∀ listed, declareListed snapshot.procedures = .ok listed →
      ∃ loaded, (addContents snapshot).run listed = .ok loaded := by
  have checks : refusal? snapshot.build = _ := checks_build
  rw [isWellFormed_iff, ← firstDefect?_eq_none_iff, ← checks, ← and_assoc]
  refine ⟨?_, fun listed declared => ⟨_, run_addContents declared⟩⟩
  cases snapshot.build with
  | ok loaded => simp [refusal?]
  | error defect => simp [refusal?]

/-- `log` is known from a call, but has no calls itself; what the sandbox lacks comes too late. -/
theorem build_checks_first_of_two :
    let snapshot : Snapshot := {
      procedures := [{ name := "main", calls := [{ target := .direct "log" }] }]
      annotations := [{ procedure := "log", callIndex := 0, targets := ["main"] }]
      sandboxes := [{ name := "worker", procedures := ["gone"] }] }
    snapshot.build = .error (.unknownCallSite "log" 0) ∧
      ∃ listed, declareListed snapshot.procedures = .ok listed ∧
        ∃ loaded, (addContents snapshot).run listed = .ok loaded := by
  intro snapshot
  obtain ⟨_, refused, added⟩ := build_checks snapshot
  refine ⟨(refused _).mpr (by decide +kernel), ?_⟩
  have distinct : (declareListed snapshot.procedures).isOk = true := by decide +kernel
  cases declared : declareListed snapshot.procedures with
  | error defect =>
    rw [declared] at distinct
    cases distinct
  | ok listed => exact ⟨listed, rfl, added listed declared⟩

end Snapshot

end SandboxRpc
