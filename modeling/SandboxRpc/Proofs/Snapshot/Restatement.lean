import SandboxRpc.Proofs.Snapshot.LoadedPartition
import SandboxRpc.Proofs.Snapshot.Mentions

/-!
# Loaded programs restate their snapshots

A loaded program holds what its snapshot says, with every name replaced by the number of the
procedure that it names. `Snapshot.Describes` says so for all that a program holds: procedures,
calls, globals and annotations. The unlisted procedures come behind the listed ones, in the order in
which they are mentioned first.

Numbers are given while calls are added, and an arity is known only where a procedure is listed. No
arity is lost, because all listed procedures are declared before anything is mentioned
(`declareListed_ok`, `arityOf_withContents`).
-/

namespace SandboxRpc

/-! ## Renaming -/

section Renaming

variable {ρ σ : Type} {query : ρ → Option σ} {f : ρ → σ}

def CallTarget.map (f : ρ → σ) : CallTarget ρ → CallTarget σ
  | .direct callee => .direct (f callee)
  | .indirect => .indirect

def Value.map (f : ρ → σ) : Value ρ → Value σ
  | .global name => .global name
  | .function procedure => .function (f procedure)
  | .cast inner => .cast (inner.map f)
  | .int value => .int value
  | .computed => .computed

def Initializer.map (f : ρ → σ) : Initializer ρ → Initializer σ
  | .characters text => .characters text
  | .function procedure => .function (f procedure)
  | .other => .other

theorem CallTarget.eq_map_of_traverse (agrees : ∀ a b, query a = some b → b = f a)
    {target : CallTarget ρ} {resolved : CallTarget σ}
    (found : target.traverse query = some resolved) : resolved = target.map f := by
  cases target with
  | direct callee =>
    obtain ⟨id, known, same⟩ := Option.bind_eq_some_iff.mp found
    cases same
    rw [agrees callee id known, map]
  | indirect =>
    cases found
    rfl

theorem Value.eq_map_of_traverse (agrees : ∀ a b, query a = some b → b = f a)
    {operand : Value ρ} {resolved : Value σ}
    (found : operand.traverse query = some resolved) : resolved = operand.map f := by
  induction operand generalizing resolved with
  | function procedure =>
    obtain ⟨id, known, same⟩ := Option.bind_eq_some_iff.mp found
    cases same
    rw [agrees procedure id known, map]
  | cast inner ih =>
    -- Casts stay around what is renamed.
    obtain ⟨value, known, same⟩ := Option.bind_eq_some_iff.mp found
    cases same
    rw [ih known, map]
  | global name =>
    cases found
    rfl
  | int number =>
    cases found
    rfl
  | computed =>
    cases found
    rfl

theorem Initializer.eq_map_of_traverse (agrees : ∀ a b, query a = some b → b = f a)
    {initializer : Initializer ρ} {resolved : Initializer σ}
    (found : initializer.traverse query = some resolved) : resolved = initializer.map f := by
  cases initializer with
  | function procedure =>
    obtain ⟨id, known, same⟩ := Option.bind_eq_some_iff.mp found
    cases same
    rw [agrees procedure id known, map]
  | characters text =>
    cases found
    rfl
  | other =>
    cases found
    rfl

theorem Success.eq_map_of_mapM_eq_some {items : List ρ} {results : List σ}
    (agrees : ∀ a b, query a = some b → b = f a) (gone : items.mapM query = some results) :
    results = items.map f := by
  induction items generalizing results with
  | nil =>
    cases gone
    rfl
  | cons item items ih =>
    rw [List.mapM_cons] at gone
    obtain ⟨result, known, gone⟩ := Option.bind_eq_some_iff.mp gone
    obtain ⟨rest, later, same⟩ := Option.bind_eq_some_iff.mp gone
    cases same
    rw [agrees item result known, ih later, List.map_cons]

end Renaming

namespace Program

variable {program : Program} {name : String} {id : ProcedureId}

/-- The tables hold all that there is to know of a procedure. -/
theorem procedure?_eq :
    program.procedure? id = program.names[id.index]?.map fun name =>
      { name, arity := program.arityOf id, calls := (program.bodyOf id).toArray } := by
  simp only [names, arityOf, bodyOf, List.getElem?_map, Array.getElem?_toList]
  cases found : program.procedure? id with
  | none =>
    rw [procedure?] at found
    simp [found]
  | some procedure =>
    rw [procedure?] at found
    simp [found]

theorem IsIndexed.find?_eq_idxOf (indexed : program.IsIndexed) :
    program.find? name =
      if name ∈ program.names then some ⟨program.names.idxOf name⟩ else none := by
  by_cases known : name ∈ program.names
  · rw [if_pos known, indexed]
    exact List.getElem?_idxOf known
  · rw [if_neg known, indexed.find?_eq_none_iff]
    exact known

end Program

namespace Snapshot

variable {snapshot : Snapshot}

/-! ## What a snapshot describes -/

/-- The number of a procedure, given the names of the unlisted ones. -/
def number (snapshot : Snapshot) (further : List String) (name : String) : ProcedureId :=
  ⟨(snapshot.listedNames ++ further).idxOf name⟩

def CallEntry.numbered (entry : CallEntry) (number : String → ProcedureId) : Call where
  target := entry.target.map number
  arguments := entry.arguments.map (·.map number)

def ProcedureEntry.numbered (entry : ProcedureEntry) (number : String → ProcedureId) :
    Procedure where
  name := entry.name
  arity := entry.arity
  calls := (entry.calls.map (·.numbered number)).toArray

/-- The targets that annotations give a call site, those of earlier annotations first. -/
def annotatedTargets? (entries : List AnnotationEntry) (number : String → ProcedureId)
    (site : CallSite) : Option (List ProcedureId) :=
  match entries.filter fun entry => CallSite.mk (number entry.procedure) entry.callIndex = site with
  | [] => none
  | here => some (here.flatMap fun entry => entry.targets.map number)

/-- A snapshot describes a program; `further` are the names of its unlisted procedures. -/
structure Describes (snapshot : Snapshot) (further : List String) (program : Program) : Prop where
  distinct : program.names.Nodup
  new : IsNew snapshot.listedNames snapshot.references further
  procedures : program.procedures.toList =
    snapshot.procedures.map (·.numbered (snapshot.number further)) ++
      further.map fun name => { name, arity := none }
  found : ∀ name, program.find? name =
    if snapshot.Knows name then some (snapshot.number further name) else none
  globals : ∀ name : String, program.globals[name]? =
    snapshot.globals[name]?.map (·.map (snapshot.number further))
  annotations : ∀ site, program.annotations[site]? =
    annotatedTargets? snapshot.annotations (snapshot.number further) site

/-! ## The listed procedures -/

theorem declareListed_ok {entries : List ProcedureEntry} {program : Program}
    (declared : declareListed entries = .ok program) :
    program.procedures.toList =
        entries.map (fun entry => { name := entry.name, arity := entry.arity }) ∧
      program.globals = ∅ ∧ program.annotations = ∅ := by
  refine Success.foldlM_induct (fun done program => program.procedures.toList =
      done.map (fun entry => { name := entry.name, arity := entry.arity }) ∧
    program.globals = ∅ ∧ program.annotations = ∅) declared ⟨rfl, rfl, rfl⟩ ?_
  rintro done entry state next ⟨procedures, globals, annotations⟩ stepped
  split at stepped
  · cases stepped
  · rename_i fresh
    cases stepped
    rw [Program.declare, fresh]
    exact ⟨by simp [procedures], globals, annotations⟩

theorem arityOf_withContents {listed : Program}
    (declared : declareListed snapshot.procedures = .ok listed) (id : ProcedureId) :
    (snapshot.withContents listed).arityOf id =
      snapshot.procedures[id.index]?.bind ProcedureEntry.arity := by
  rw [withContents_keeps (·.arityOf id) (fun _ _ => Program.arityOf_declare)
    (fun _ _ _ => rfl) (fun _ _ _ => Program.arityOf_addCall)]
  rw [Program.arityOf, Program.procedure?, ← Array.getElem?_toList, (declareListed_ok declared).1,
    List.getElem?_map, Option.bind_map]
  rfl

theorem annotations_withContents {listed : Program}
    (declared : declareListed snapshot.procedures = .ok listed) :
    (snapshot.withContents listed).annotations = ∅ := by
  rw [withContents_keeps Program.annotations (fun _ _ => Program.annotations_declare)
    (fun _ _ _ => rfl) (fun _ _ _ => rfl), (declareListed_ok declared).2.2]

/-! ## Globals -/

/-- What adding globals does to the initializers in a program. -/
structure AddsGlobals (small : Program) (entries : List (String × Initializer String))
    (large : Program) : Prop where
  given : ∀ entry ∈ entries, ∃ value, entry.2.traverse large.find? = some value ∧
    large.globals[entry.1]? = some value
  kept : ∀ name ∉ entries.map Prod.fst, large.globals[name]? = small.globals[name]?

theorem addsGlobals_foldl {entries : List (String × Initializer String)}
    (distinct : (entries.map Prod.fst).Nodup) (program : Program) :
    AddsGlobals program entries (entries.foldl addGlobal program) := by
  induction entries generalizing program with
  | nil => exact ⟨by simp, fun _ _ => rfl⟩
  | cons entry entries ih =>
    obtain ⟨absent, distinctRest⟩ := List.nodup_cons.mp distinct
    have declares := Declares.initializer entry.2
    obtain ⟨given, kept⟩ := ih distinctRest (addGlobal program entry)
    have grown := (foldl_addGlobal entries (addGlobal program entry)).1
    show AddsGlobals program (entry :: entries) (entries.foldl addGlobal (addGlobal program entry))
    have first : (addGlobal program entry).globals =
        program.globals.insert entry.1 (entry.2.traverse mention program).1 := by
      rw [addGlobal_eq, Program.setGlobal, Program.declareAll_keeps Program.globals fun _ _ =>
        Program.globals_declare]
    constructor
    · intro later member
      rcases List.mem_cons.mp member with rfl | member
      · -- The name in this initializer means in the end what it meant here.
        refine ⟨(later.2.traverse mention program).1, ?_, ?_⟩
        · exact declares.stable
            ((Program.Extends.of_names_eq Program.names_setGlobal rfl).trans grown)
            (declares.answered program)
        · rw [kept later.1 absent, first]
          simp
      · exact given later member
    · intro name other
      obtain ⟨apart, otherRest⟩ := not_or.mp (List.mem_cons.not.mp other)
      rw [kept name otherRest, first, Std.ExtTreeMap.getElem?_insert]
      simp [Ne.symm apart]

theorem extends_addCalls (items : List (ProcedureId × CallEntry)) (program : Program) :
    program.Extends (addCalls program items) := by
  induction items generalizing program with
  | nil => exact Program.Extends.refl program
  | cons item items ih =>
    exact (extends_addCall item.1 item.2 program).trans (ih (addCall item.1 item.2 program).2)

theorem globals_withContents {listed : Program} {number : String → ProcedureId}
    (declared : declareListed snapshot.procedures = .ok listed)
    (numbers : ∀ name id, (snapshot.withContents listed).find? name = some id → id = number name)
    (name : String) :
    (snapshot.withContents listed).globals[name]? = snapshot.globals[name]?.map (·.map number) := by
  have distinct : (snapshot.globals.toList.map Prod.fst).Nodup := by
    rw [Std.ExtTreeMap.map_fst_toList_eq_keys]
    exact Std.ExtTreeMap.nodup_keys
  obtain ⟨given, kept⟩ := addsGlobals_foldl distinct listed
  rw [withContents] at numbers ⊢
  have calls (program : Program) :
      (addCalls program snapshot.callEntries).globals = program.globals := by
    refine foldl_keeps Program.globals (fun program item => ?_) _ program
    rw [addCall_eq_declareAll]
    exact Program.declareAll_keeps Program.globals fun _ _ => Program.globals_declare
  rw [calls]
  cases listedGlobal : snapshot.globals[name]? with
  | none =>
    have absent : name ∉ snapshot.globals.toList.map Prod.fst := by
      rintro member
      obtain ⟨entry, found, rfl⟩ := List.mem_map.mp member
      rw [Std.ExtTreeMap.mem_toList_iff_getElem?_eq_some.mp found] at listedGlobal
      cases listedGlobal
    rw [kept name absent, (declareListed_ok declared).2.1]
    simp
  | some initializer =>
    have member := Std.ExtTreeMap.mem_toList_iff_getElem?_eq_some.mpr listedGlobal
    obtain ⟨value, resolved, stored⟩ := given _ member
    -- What a name meant after the globals, it means after the calls.
    have final := (Declares.initializer initializer).stable
      (extends_addCalls snapshot.callEntries _) resolved
    rw [stored, Initializer.eq_map_of_traverse numbers final, Option.map_some]

/-! ## Calls -/

theorem CallEntry.eq_numbered_of_resolve? {program : Program} {number : String → ProcedureId}
    (numbers : ∀ name id, program.find? name = some id → id = number name) {entry : CallEntry}
    {call : Call} (resolved : entry.resolve? program = some call) :
    call = entry.numbered number := by
  obtain ⟨target, callee, resolved⟩ := Option.bind_eq_some_iff.mp resolved
  obtain ⟨arguments, passed, same⟩ := Option.bind_eq_some_iff.mp resolved
  cases same
  rw [CallTarget.eq_map_of_traverse numbers callee,
    Success.eq_map_of_mapM_eq_some (fun _ _ => Value.eq_map_of_traverse numbers) passed, numbered]

theorem Restates.bodyOf_eq {program : Program} (restates : snapshot.Restates program)
    {number : String → ProcedureId}
    (numbers : ∀ name id, program.find? name = some id → id = number name) (id : ProcedureId) :
    program.bodyOf id = (snapshot.callsOf id).map (·.numbered number) :=
  Success.eq_map_of_mapM_eq_some (fun _ _ => CallEntry.eq_numbered_of_resolve? numbers)
    (restates.bodies id)

/-- Names, arities and bodies make up the procedures. -/
theorem procedures_eq_of_tables {program : Program} {further : List String}
    {number : String → ProcedureId} (names : program.names = snapshot.listedNames ++ further)
    (arities : ∀ id, program.arityOf id = snapshot.procedures[id.index]?.bind ProcedureEntry.arity)
    (bodies : ∀ id, program.bodyOf id = (snapshot.callsOf id).map (·.numbered number)) :
    program.procedures.toList = snapshot.procedures.map (·.numbered number) ++
      further.map fun name => { name, arity := none } := by
  -- Position by position: up to the last listed procedure, and from there on.
  refine List.ext_getElem? fun index => ?_
  have entry : program.procedure? ⟨index⟩ = _ := Program.procedure?_eq
  rw [Program.procedure?, ← Array.getElem?_toList, names, arities, bodies, callsOf] at entry
  rw [entry]
  by_cases bound : index < snapshot.procedures.length
  · rw [List.getElem?_append_left (by simpa [listedNames] using bound),
      List.getElem?_append_left (by simpa using bound)]
    simp [listedNames, bound, ProcedureEntry.numbered]
  · have beyond : snapshot.procedures[index]? = none :=
      List.getElem?_eq_none (Nat.le_of_not_lt bound)
    rw [List.getElem?_append_right (by simpa [listedNames] using bound),
      List.getElem?_append_right (by simpa using bound)]
    simp [listedNames, beyond]

/-! ## Annotations -/

theorem annotatedTargets?_concat {entries : List AnnotationEntry} {number : String → ProcedureId}
    {last : AnnotationEntry} {site : CallSite} :
    annotatedTargets? (entries ++ [last]) number site =
      if CallSite.mk (number last.procedure) last.callIndex = site then
        some ((annotatedTargets? entries number site).getD [] ++ last.targets.map number)
      else annotatedTargets? entries number site := by
  simp only [annotatedTargets?, List.filter_append]
  by_cases here : CallSite.mk (number last.procedure) last.callIndex = site
  · cases entries.filter fun entry =>
      CallSite.mk (number entry.procedure) entry.callIndex = site with
    | nil => simp [here]
    | cons first rest => simp [here]
  · simp [here]

theorem annotated_eq {program annotated : Program} {number : String → ProcedureId}
    (numbers : ∀ name id, program.find? name = some id → id = number name)
    {entry : AnnotationEntry} (added : annotateCall program entry = .ok annotated) :
    annotated = program.annotate ⟨number entry.procedure, entry.callIndex⟩
      (entry.targets.map number) := by
  have looked {name : String} {id : ProcedureId} (found : lookUp program name = .ok id) :
      id = number name := numbers name id (lookUp_eq_ok_iff.mp found)
  obtain ⟨caller, known, added⟩ := Success.bind_eq_ok_iff.mp added
  dsimp only at added
  split at added
  · obtain ⟨targets, found, same⟩ := Success.bind_eq_ok_iff.mp added
    have listed : targets.map id = entry.targets.map number :=
      Success.map_eq_of_mapM_eq_ok found fun _ _ => looked
    rw [List.map_id] at listed
    cases same
    rw [looked known, listed]
  · cases added

/-- Annotations change nothing but the annotated targets. -/
theorem annotations_annotated {entries : List AnnotationEntry} {program annotated : Program}
    {number : String → ProcedureId} (bare : program.annotations = ∅)
    (numbers : ∀ name id, program.find? name = some id → id = number name)
    (added : entries.foldlM annotateCall program = .ok annotated) :
    annotated = { program with annotations := annotated.annotations } ∧
      ∀ site, annotated.annotations[site]? = annotatedTargets? entries number site := by
  refine Success.foldlM_induct (fun done state =>
    state = { program with annotations := state.annotations } ∧
      ∀ site, state.annotations[site]? = annotatedTargets? done number site) added ?_ ?_
  · refine ⟨rfl, fun site => ?_⟩
    rw [bare]
    exact Std.ExtTreeMap.getElem?_empty
  · rintro done entry state next ⟨same, annotations⟩ stepped
    have found (name : String) : state.find? name = program.find? name := by
      rw [same]
      rfl
    have step := annotated_eq (fun name id known => numbers name id (found name ▸ known)) stepped
    subst step
    refine ⟨?_, fun site => ?_⟩
    · rw [Program.annotate, same]
    · rw [annotatedTargets?_concat, Program.annotate, Std.ExtTreeMap.getElem?_alter, annotations,
        annotations]
      by_cases here : CallSite.mk (number entry.procedure) entry.callIndex = site
      · simp [here]
      · rw [if_neg here, if_neg fun equal => here (Std.LawfulEqOrd.eq_of_compare equal)]

/-! ## Loaded programs -/

theorem describes_buildProgram {program : Program} {regions : List RegionEntry}
    (built : snapshot.buildProgram = .ok (regions, program)) :
    ∃ further, snapshot.Describes further program := by
  obtain ⟨listed, declared, _, annotated⟩ := buildProgram_ok built
  have indexed := (lists_declareListed declared).indexed
  have restates := restates_withContents declared
  obtain ⟨further, taken, new⟩ := takeUpAll_eq snapshot.listedNames snapshot.references
  have names : (snapshot.withContents listed).names = snapshot.listedNames ++ further := by
    rw [names_withContents snapshot indexed, (lists_declareListed declared).same, ← taken]
    rfl
  have found (name : String) : (snapshot.withContents listed).find? name =
      if snapshot.Knows name then some (snapshot.number further name) else none := by
    rw [restates.indexed.find?_eq_idxOf]
    simp only [mem_names_withContents declared]
    rw [names, number]
  have numbers (name : String) (id : ProcedureId)
      (known : (snapshot.withContents listed).find? name = some id) :
      id = snapshot.number further name := by
    rw [found] at known
    split at known
    · exact (Option.some.inj known).symm
    · cases known
  have procedures := procedures_eq_of_tables names (arityOf_withContents declared)
    (restates.bodyOf_eq numbers)
  have globals := globals_withContents declared numbers
  -- Annotations come last and touch neither names nor calls nor globals.
  obtain ⟨same, annotations⟩ :=
    annotations_annotated (annotations_withContents declared) numbers annotated
  refine ⟨further, (restates_buildProgram built).indexed.distinct, new, ?_, fun name => ?_,
    fun name => ?_, annotations⟩
  · rw [same]
    exact procedures
  · rw [same]
    exact found name
  · rw [same]
    exact globals name

namespace Describes

variable {further : List String} {program : Program}
  (describes : snapshot.Describes further program)
include describes

theorem names : program.names = snapshot.listedNames ++ further := by
  rw [Program.names, describes.procedures]
  simp [listedNames, ProcedureEntry.numbered, Function.comp_def]

theorem number_eq {name : String} {id : ProcedureId}
    (named : program.names[id.index]? = some name) : snapshot.number further name = id := by
  have distinct := describes.distinct
  rw [describes.names] at named distinct
  obtain ⟨bound, rfl⟩ := List.getElem?_eq_some_iff.mp named
  rw [number, distinct.idxOf_getElem]

theorem mem_further {name : String} :
    name ∈ further ↔ snapshot.Knows name ∧ name ∉ snapshot.listedNames := by
  rw [describes.new.members, knows_iff]
  constructor
  · rintro ⟨mentioned, unlisted⟩
    exact ⟨.inr mentioned, unlisted⟩
  · rintro ⟨known, unlisted⟩
    exact ⟨known.resolve_left unlisted, unlisted⟩

/-- The index says the same as the numbers. -/
theorem indexed : program.IsIndexed := by
  intro name id
  rw [describes.found]
  constructor
  · split
    · rename_i known
      rintro ⟨⟩
      have member : name ∈ snapshot.listedNames ++ further := by
        rw [List.mem_append, describes.mem_further]
        tauto
      rw [describes.names, number]
      exact List.getElem?_idxOf member
    · exact nofun
  · intro named
    have member := List.mem_of_getElem? named
    rw [describes.names, List.mem_append, describes.mem_further, knows_iff] at member
    rw [if_pos (knows_iff.mpr (by tauto)), describes.number_eq named]

theorem nameOf_number {name : String} (known : snapshot.Knows name) :
    program.nameOf (snapshot.number further name) = name :=
  (describes.indexed.find?_eq_some_iff.mp ((describes.found name).trans (if_pos known))).2

theorem listed {index : Nat} {entry : ProcedureEntry}
    (member : snapshot.procedures[index]? = some entry) :
    snapshot.number further entry.name = ⟨index⟩ ∧
      program.procedure? ⟨index⟩ = some (entry.numbered (snapshot.number further)) := by
  have bound := (List.getElem?_eq_some_iff.mp member).1
  constructor
  · refine describes.number_eq ?_
    rw [describes.names, List.getElem?_append_left (by simpa [listedNames] using bound)]
    simp [listedNames, member]
  · rw [Program.procedure?, ← Array.getElem?_toList, describes.procedures,
      List.getElem?_append_left (by simpa using bound), List.getElem?_map, member, Option.map_some]

/-- The numbers of the unlisted procedures follow those of the listed ones. -/
theorem unlisted {index : Nat} {name : String} (member : further[index]? = some name) :
    snapshot.number further name = ⟨snapshot.procedures.length + index⟩ ∧
      program.procedure? ⟨snapshot.procedures.length + index⟩ = some { name, arity := none } := by
  constructor
  · refine describes.number_eq ?_
    rw [describes.names, List.getElem?_append_right (by simp [listedNames])]
    simpa [listedNames] using member
  · rw [Program.procedure?, ← Array.getElem?_toList, describes.procedures,
      List.getElem?_append_right (by simp)]
    simp [member]

theorem call?_listed {index position : Nat} {entry : ProcedureEntry} {call : CallEntry}
    (member : snapshot.procedures[index]? = some entry)
    (made : entry.calls[position]? = some call) :
    program.call? ⟨⟨index⟩, position⟩ = some (call.numbered (snapshot.number further)) := by
  rw [Program.call?, (describes.listed member).2, Option.bind_some]
  simp [ProcedureEntry.numbered, made]

end Describes

theorem describes_build {program : Program} {partition : Partition}
    (built : snapshot.build = .ok (program, partition)) :
    ∃ further, snapshot.Describes further program := by
  exact describes_buildProgram (parts_of_build built).1

/-- A loaded program restates its snapshot. The procedures of `further` are not listed: they are
declared once each, in the order in which the snapshot mentions them first. All others have the
numbers, arities and calls that the list gives them. -/
theorem build_restates {program : Program} {partition : Partition}
    (built : snapshot.build = .ok (program, partition)) :
    ∃ further, snapshot.Describes further program ∧
      (∀ name, name ∈ further ↔ snapshot.Knows name ∧ name ∉ snapshot.listedNames) ∧
      (∀ name, snapshot.Knows name →
        program.find? name = some (snapshot.number further name) ∧
          program.nameOf (snapshot.number further name) = name) ∧
      (∀ index entry, snapshot.procedures[index]? = some entry →
        snapshot.number further entry.name = ⟨index⟩ ∧
          program.arityOf ⟨index⟩ = entry.arity ∧
          program.callCount ⟨index⟩ = entry.calls.length ∧
          ∀ position call, entry.calls[position]? = some call →
            program.targetOf ⟨⟨index⟩, position⟩ = call.target.map (snapshot.number further) ∧
            program.argumentsOf ⟨⟨index⟩, position⟩ =
              call.arguments.map (·.map (snapshot.number further))) ∧
      ∀ index name, further[index]? = some name →
        snapshot.number further name = ⟨snapshot.procedures.length + index⟩ ∧
          program.arityOf ⟨snapshot.procedures.length + index⟩ = none ∧
          program.callCount ⟨snapshot.procedures.length + index⟩ = 0 := by
  obtain ⟨further, describes⟩ := describes_build built
  refine ⟨further, describes, fun _ => describes.mem_further, fun name known => ?_,
    fun index entry member => ?_, fun index name member => ?_⟩
  · exact ⟨(describes.found name).trans (if_pos known), describes.nameOf_number known⟩
  · obtain ⟨number, procedure⟩ := describes.listed member
    refine ⟨number, ?_, ?_, fun position call made => ?_⟩
    · simp [Program.arityOf, procedure, ProcedureEntry.numbered]
    · simp [Program.callCount, procedure, ProcedureEntry.numbered]
    · have stored := describes.call?_listed member made
      constructor
      · rw [Program.targetOf, stored, Option.map_some, Option.getD_some, CallEntry.numbered]
      · rw [Program.argumentsOf, stored, Option.map_some, Option.getD_some, CallEntry.numbered]
  · obtain ⟨number, procedure⟩ := describes.unlisted member
    refine ⟨number, ?_, ?_⟩
    · rw [Program.arityOf, procedure, Option.bind_some]
    · rw [Program.callCount, procedure, Option.map_some, Option.getD_some]
      rfl

/-- `main` calls `serve` before `serve` is listed, and mentions two procedures that are not listed:
one in a global, one in an argument. -/
theorem build_restates_of_forward_reference :
    let snapshot : Snapshot := {
      procedures := [
        { name := "main", arity := some 2, calls := [
          { target := .direct "serve", arguments := [.cast (.function "receive"), .int 7] },
          { target := .indirect }] },
        { name := "serve", arity := some 1 }]
      globals := .ofList [("handler", Initializer.function "log")]
      annotations := [
        { procedure := "main", callIndex := 1, targets := ["serve"] },
        { procedure := "main", callIndex := 1, targets := ["log", "receive"] }] }
    ∃ program partition, snapshot.build = .ok (program, partition) ∧
      program.arityOf ⟨1⟩ = some 1 ∧ program.targetOf ⟨⟨0⟩, 0⟩ = .direct ⟨1⟩ ∧
      program.nameOf ⟨1⟩ = "serve" ∧
      ∃ further, snapshot.Describes further program ∧ "log" ∈ further ∧ "receive" ∈ further := by
  intro snapshot
  have accepted : snapshot.build.isOk = true := by decide +kernel
  cases built : snapshot.build with
  | error defect =>
    rw [built] at accepted
    cases accepted
  | ok loaded =>
    obtain ⟨further, describes, new, known, listed, _⟩ := build_restates built
    obtain ⟨_, _, _, calls⟩ := listed 0 _ rfl
    obtain ⟨serve, arity, _, _⟩ := listed 1 _ rfl
    obtain ⟨target, _⟩ := calls 0 _ rfl
    have knows (name : String) (mentioned : name ∈ ["serve", "log", "receive"]) :
        snapshot.Knows name := by
      rw [knows_iff]
      revert name
      decide +kernel
    refine ⟨loaded.1, loaded.2, rfl, arity, ?_, ?_, further, describes, ?_, ?_⟩
    · rw [target]
      exact congrArg CallTarget.direct serve
    · exact serve ▸ (known "serve" (knows "serve" (by simp))).2
    · exact (new "log").mpr ⟨knows "log" (by simp), by decide⟩
    · exact (new "receive").mpr ⟨knows "receive" (by simp), by decide⟩

end Snapshot

end SandboxRpc
