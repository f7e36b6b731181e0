import SandboxRpc.Proofs.Program.Growth
import SandboxRpc.Proofs.Success
import SandboxRpc.Snapshot.Build

/-!
# The program of a snapshot

`Snapshot.buildProgram` numbers procedures on the fly, so what a name means is settled while calls
are already being added. `Declares` says that this does no harm: an action that declares what it
mentions computes what looking the names up gives, in the program that it leaves and in all that
come after.

`Restates` is what a loaded program has to do with its snapshot: the listed procedures come first,
and each has the calls listed for it.
-/

namespace SandboxRpc

namespace Snapshot

/-! ## Declaring what is mentioned -/

/-- An action that only declares procedures, and computes what a query of the program gives from
then on. -/
structure Declares {α : Type} (action : StateM Program α) (query : Program → Option α) : Prop where
  grown : ∀ program : Program, program.Extends (action program).2
  bodies : ∀ (program : Program) (id : ProcedureId),
    (action program).2.bodyOf id = program.bodyOf id
  answered : ∀ program, query (action program).2 = some (action program).1
  stable : ∀ {small large : Program} {answer : α}, small.Extends large →
    query small = some answer → query large = some answer

namespace Declares

variable {α β : Type}

theorem pure (value : α) : Declares (pure value) (fun _ => some value) where
  grown program := Program.Extends.refl program
  bodies _ _ := rfl
  answered _ := rfl
  stable _ found := found

theorem bind {action : StateM Program α} {query : Program → Option α}
    {next : α → StateM Program β} {nextQuery : α → Program → Option β}
    (first : Declares action query) (rest : ∀ value, Declares (next value) (nextQuery value)) :
    Declares (action >>= next) (fun program => (query program).bind (nextQuery · program)) where
  grown program := (first.grown program).trans ((rest _).grown _)
  bodies program id := ((rest _).bodies _ id).trans (first.bodies program id)
  answered program := by
    -- What the rest declares does not change the first answer.
    have kept : query ((action >>= next) program).2 = some (action program).1 :=
      first.stable ((rest _).grown _) (first.answered program)
    rw [kept, Option.bind_some]
    exact (rest _).answered _
  stable grown found := by
    obtain ⟨value, early, late⟩ := Option.bind_eq_some_iff.mp found
    exact Option.bind_eq_some_iff.mpr
      ⟨value, first.stable grown early, (rest value).stable grown late⟩

theorem mapM {action : α → StateM Program β} {query : α → Program → Option β}
    (each : ∀ item, Declares (action item) (query item)) (items : List α) :
    Declares (items.mapM action) (fun program => items.mapM (query · program)) := by
  induction items with
  | nil => exact pure []
  | cons item items ih =>
    simp only [List.mapM_cons]
    exact (each item).bind fun first => ih.bind fun rest => pure (first :: rest)

theorem mention (name : String) : Declares (mention name) (·.find? name) where
  grown program := Program.Extends.declare program name none
  bodies _ _ := Program.bodyOf_declare
  answered _ := Program.find?_declare
  stable grown found := grown.find? found

theorem callTarget (target : CallTarget String) :
    Declares (target.traverse Snapshot.mention) (fun program => target.traverse program.find?) := by
  cases target with
  | direct callee => exact (mention callee).bind fun id => pure (CallTarget.direct id)
  | indirect => exact pure CallTarget.indirect

theorem value (operand : Value String) :
    Declares (operand.traverse Snapshot.mention)
      (fun program => operand.traverse program.find?) := by
  induction operand with
  | global name => exact pure (Value.global name)
  | function procedure => exact (mention procedure).bind fun id => pure (Value.function id)
  | cast inner ih => exact ih.bind fun inner => pure (Value.cast inner)
  | int number => exact pure (Value.int number)
  | computed => exact pure Value.computed

theorem initializer (initializer : Initializer String) :
    Declares (initializer.traverse Snapshot.mention)
      (fun program => initializer.traverse program.find?) := by
  cases initializer with
  | characters text => exact pure (Initializer.characters text)
  | function procedure => exact (mention procedure).bind fun id => pure (Initializer.function id)
  | other => exact pure Initializer.other

end Declares

/-! ## The calls of a snapshot -/

/-- What an entry says in a program that knows all names in it. -/
def CallEntry.resolve? (entry : CallEntry) (program : Program) : Option Call := do
  let target ← entry.target.traverse program.find?
  let arguments ← entry.arguments.mapM (·.traverse program.find?)
  return { target, arguments }

/-- The call that an entry says; the callee is declared before the arguments. -/
def CallEntry.declare (entry : CallEntry) : StateM Program Call := do
  let target ← entry.target.traverse mention
  let arguments ← entry.arguments.mapM (·.traverse mention)
  return { target, arguments }

theorem Declares.call (entry : CallEntry) : Declares entry.declare entry.resolve? :=
  (callTarget entry.target).bind fun target =>
    (mapM value entry.arguments).bind fun arguments => pure (Call.mk target arguments)

theorem addCall_eq (caller : ProcedureId) (entry : CallEntry) (program : Program) :
    addCall caller entry program =
      ((entry.declare program).2.nextCall caller,
        (entry.declare program).2.addCall caller (entry.declare program).1) :=
  rfl

/-- The program after these calls were added to it. -/
def addCalls (program : Program) (items : List (ProcedureId × CallEntry)) : Program :=
  items.foldl (fun program item => (addCall item.1 item.2 program).2) program

/-- The calls of a listed procedure, with its number as their caller. -/
def bodyEntries (procedure : ProcedureEntry × Nat) : List (ProcedureId × CallEntry) :=
  procedure.1.calls.map fun call => (⟨procedure.2⟩, call)

/-- The calls of a snapshot with their callers, in program order. -/
def callEntries (snapshot : Snapshot) : List (ProcedureId × CallEntry) :=
  snapshot.procedures.zipIdx.flatMap bodyEntries

theorem caller_of_mem_callEntries {snapshot : Snapshot} {item : ProcedureId × CallEntry}
    (member : item ∈ snapshot.callEntries) : item.1.index < snapshot.procedures.length := by
  obtain ⟨⟨procedure, index⟩, listed, call⟩ := List.mem_flatMap.mp member
  obtain ⟨_, _, rfl⟩ := List.mem_map.mp call
  exact (List.getElem?_eq_some_iff.mp (List.mem_zipIdx_iff_getElem?.mp listed)).1

/-- The calls that are listed for a procedure. -/
def callsOf (snapshot : Snapshot) (id : ProcedureId) : List CallEntry :=
  (snapshot.procedures[id.index]?.map ProcedureEntry.calls).getD []

theorem filter_bodyEntries (procedure : ProcedureEntry) (number : Nat) (id : ProcedureId) :
    ((bodyEntries (procedure, number)).filter (·.1 = id)).map Prod.snd =
      if number = id.index then procedure.calls else [] := by
  obtain ⟨index⟩ := id
  by_cases same : number = index
  · subst same
    simp [bodyEntries, List.filter_map, Function.comp_def]
  · simp [bodyEntries, List.filter_map, Function.comp_def, same]

theorem filter_zipIdx (procedures : List ProcedureEntry) (start : Nat) (id : ProcedureId) :
    (((procedures.zipIdx start).flatMap bodyEntries).filter (·.1 = id)).map Prod.snd =
      if start ≤ id.index then (procedures[id.index - start]?.map ProcedureEntry.calls).getD []
      else [] := by
  induction procedures generalizing start with
  | nil => simp
  | cons procedure procedures ih =>
    rw [List.zipIdx_cons, List.flatMap_cons, List.filter_append, List.map_append, ih,
      filter_bodyEntries]
    rcases Nat.lt_trichotomy start id.index with before | same | after
    · obtain ⟨distance, apart⟩ : ∃ distance, id.index - start = distance + 1 :=
        ⟨id.index - start - 1, by omega⟩
      have rest : id.index - (start + 1) = distance := by omega
      rw [if_neg (Nat.ne_of_lt before), if_pos (Nat.succ_le_of_lt before),
        if_pos (Nat.le_of_lt before), apart, rest]
      rfl
    · rw [if_pos same, if_neg (by omega), if_pos (Nat.le_of_eq same), same, Nat.sub_self]
      simp
    · rw [if_neg (Nat.ne_of_gt after), if_neg (by omega), if_neg (Nat.not_le_of_lt after)]
      rfl

theorem filter_callEntries (snapshot : Snapshot) (id : ProcedureId) :
    (snapshot.callEntries.filter (·.1 = id)).map Prod.snd = snapshot.callsOf id := by
  rw [callEntries, filter_zipIdx, callsOf]
  simp

/-! ## Adding the contents -/

theorem extends_addCall (caller : ProcedureId) (entry : CallEntry) (program : Program) :
    program.Extends (addCall caller entry program).2 :=
  ((Declares.call entry).grown program).trans (.of_names_eq Program.names_addCall rfl)

/-- What adding calls does to a program, whatever they mention. -/
structure AddsCalls (small : Program) (items : List (ProcedureId × CallEntry)) (large : Program) :
    Prop where
  grown : small.Extends large
  bodies : ∀ id, ∃ added, ((items.filter (·.1 = id)).map Prod.snd).mapM (·.resolve? large) =
    some added ∧ large.bodyOf id = small.bodyOf id ++ added

namespace AddsCalls

theorem nil (program : Program) : AddsCalls program [] program where
  grown := Program.Extends.refl program
  bodies id := ⟨[], rfl, by simp⟩

theorem cons {small large : Program} {caller : ProcedureId} {entry : CallEntry}
    {items : List (ProcedureId × CallEntry)} (declared : caller.index < small.names.length)
    (rest : AddsCalls (addCall caller entry small).2 items large) :
    AddsCalls small ((caller, entry) :: items) large := by
  have declares := Declares.call entry
  have fits : caller.index < (entry.declare small).2.names.length :=
    Nat.lt_of_lt_of_le declared (declares.grown small).names.length_le
  refine ⟨(extends_addCall caller entry small).trans rest.grown, fun id => ?_⟩
  obtain ⟨added, resolved, body⟩ := rest.bodies id
  rw [addCall_eq, Program.bodyOf_addCall fits, declares.bodies] at body
  by_cases same : caller = id
  · -- The names in this call mean in the end what they meant when it was added.
    have call : entry.resolve? large = some (entry.declare small).1 :=
      declares.stable ((Program.Extends.of_names_eq Program.names_addCall rfl).trans rest.grown)
        (declares.answered small)
    refine ⟨(entry.declare small).1 :: added, ?_, ?_⟩
    · simp [same, call, resolved]
    · simpa [same] using body
  · refine ⟨added, ?_, ?_⟩
    · simpa [same] using resolved
    · simpa [same] using body

theorem of_declared {items : List (ProcedureId × CallEntry)} {program : Program}
    (declared : ∀ item ∈ items, item.1.index < program.names.length) :
    AddsCalls program items (addCalls program items) := by
  induction items generalizing program with
  | nil => exact nil program
  | cons item items ih =>
    refine cons (declared item List.mem_cons_self) (ih fun later member => ?_)
    exact Nat.lt_of_lt_of_le (declared later (List.mem_cons_of_mem _ member))
      (extends_addCall item.1 item.2 program).names.length_le

end AddsCalls

/-- Globals mention procedures, but add no calls. -/
theorem foldl_addGlobal (entries : List (String × Initializer String)) (program : Program) :
    program.Extends (entries.foldl addGlobal program) ∧
      ∀ id, (entries.foldl addGlobal program).bodyOf id = program.bodyOf id := by
  induction entries generalizing program with
  | nil => exact ⟨Program.Extends.refl program, fun _ => rfl⟩
  | cons entry entries ih =>
    have declares := Declares.initializer entry.2
    obtain ⟨grown, bodies⟩ := ih (addGlobal program entry)
    have first : program.Extends (addGlobal program entry) :=
      (declares.grown program).trans (.of_names_eq Program.names_setGlobal rfl)
    refine ⟨first.trans grown, fun id => (bodies id).trans ?_⟩
    show ((entry.2.traverse mention program).2.setGlobal _ _).bodyOf id = program.bodyOf id
    rw [Program.bodyOf_setGlobal, declares.bodies]

/-! ## Loaded programs -/

/-- A program whose index fits, and whose procedures have no calls yet. -/
structure Lists (names : List String) (program : Program) : Prop where
  same : program.names = names
  indexed : program.IsIndexed
  empty : ∀ id, program.bodyOf id = []

theorem lists_declareListed {entries : List ProcedureEntry} {program : Program}
    (declared : declareListed entries = .ok program) :
    Lists (entries.map ProcedureEntry.name) program := by
  refine Success.foldlM_induct (fun done => Lists (done.map ProcedureEntry.name)) declared
    ⟨rfl, Program.isIndexed_empty, fun _ => rfl⟩ ?_
  intro done entry state next lists stepped
  cases found : state.find? entry.name with
  | some id => simp [found] at stepped
  | none =>
    have fresh : entry.name ∉ done.map ProcedureEntry.name := by
      rw [← lists.same]
      exact lists.indexed.find?_eq_none_iff.mp found
    simp only [found, Except.ok.injEq] at stepped
    subst stepped
    refine ⟨?_, Program.isIndexed_declare lists.indexed entry.arity,
      fun id => Program.bodyOf_declare.trans (lists.empty id)⟩
    rw [Program.names_declare lists.indexed, lists.same, if_neg fresh]
    simp

/-- A program restates a snapshot: its first procedures are the listed ones, and their calls are
those listed for them, with every name resolved. Further procedures have no calls. -/
structure Restates (snapshot : Snapshot) (program : Program) : Prop where
  indexed : program.IsIndexed
  listed : snapshot.procedures.map ProcedureEntry.name <+: program.names
  bodies : ∀ id, (snapshot.callsOf id).mapM (·.resolve? program) = some (program.bodyOf id)

/-- The program with the globals and the calls of a snapshot, after the listed procedures. -/
def withContents (snapshot : Snapshot) (listed : Program) : Program :=
  addCalls (snapshot.globals.toList.foldl addGlobal listed) snapshot.callEntries

theorem restates_withContents {snapshot : Snapshot} {listed : Program}
    (declared : declareListed snapshot.procedures = .ok listed) :
    snapshot.Restates (snapshot.withContents listed) := by
  have lists := lists_declareListed declared
  obtain ⟨globals, kept⟩ := foldl_addGlobal snapshot.globals.toList listed
  rw [withContents]
  generalize snapshot.globals.toList.foldl addGlobal listed = middle at globals kept ⊢
  have enough : snapshot.procedures.length ≤ middle.names.length := by
    have longer := globals.names.length_le
    rwa [lists.same, List.length_map] at longer
  have calls : AddsCalls middle snapshot.callEntries _ :=
    AddsCalls.of_declared fun item member =>
      Nat.lt_of_lt_of_le (caller_of_mem_callEntries member) enough
  have grown := globals.trans calls.grown
  refine ⟨grown.indexed lists.indexed, lists.same ▸ grown.names, fun id => ?_⟩
  obtain ⟨added, resolved, body⟩ := calls.bodies id
  rw [filter_callEntries] at resolved
  -- Before its calls are added, a procedure has none: all of the body is what was added.
  rw [body, kept, lists.empty, List.nil_append]
  exact resolved

/-! ### Annotations -/

theorem Restates.annotate {snapshot : Snapshot} {program : Program}
    (restates : snapshot.Restates program) (site : CallSite) (targets : List ProcedureId) :
    snapshot.Restates (program.annotate site targets) where
  indexed := restates.indexed.of_names_eq Program.names_annotate rfl
  listed := by
    rw [Program.names_annotate]
    exact restates.listed
  bodies id := by
    rw [Program.bodyOf_annotate]
    exact restates.bodies id

theorem lookUp_eq_ok_iff {program : Program} {name : String} {id : ProcedureId} :
    lookUp program name = .ok id ↔ program.find? name = some id := by
  rw [lookUp]
  split
  · rename_i found
    rw [found]
    simp
  · rename_i missing
    rw [missing]
    simp

theorem lookUp_eq_ok_iff_nameOf {program : Program} (indexed : program.IsIndexed) {name : String}
    {id : ProcedureId} :
    lookUp program name = .ok id ↔ id ∈ program.procedureIds ∧ program.nameOf id = name :=
  lookUp_eq_ok_iff.trans indexed.find?_eq_some_iff

/-- An annotation that is accepted stands at a call, and its targets are procedures. -/
theorem annotateCall_ok {program annotated : Program} {entry : AnnotationEntry}
    (added : annotateCall program entry = .ok annotated) :
    ∃ site targets, program.hasCall site ∧
      (∀ id ∈ targets, ∃ name, program.find? name = some id) ∧
      annotated = program.annotate site targets := by
  obtain ⟨caller, _, added⟩ := Success.bind_eq_ok_iff.mp added
  dsimp only at added
  split at added
  · rename_i present
    obtain ⟨targets, known, same⟩ := Success.bind_eq_ok_iff.mp added
    cases same
    refine ⟨_, targets, present, fun id member => ?_, rfl⟩
    obtain ⟨name, _, found⟩ := (Success.mem_iff_of_mapM_eq_ok known).mp member
    exact ⟨name, lookUp_eq_ok_iff.mp found⟩
  · cases added

/-! ## What a loaded program tells of its snapshot -/

theorem Restates.nameOf_listed {snapshot : Snapshot} {program : Program}
    (restates : snapshot.Restates program) {index : Nat} {procedure : ProcedureEntry}
    (listed : snapshot.procedures[index]? = some procedure) :
    program.nameOf ⟨index⟩ = procedure.name := by
  obtain ⟨further, same⟩ := restates.listed
  have named : (snapshot.procedures.map ProcedureEntry.name)[index]? = some procedure.name := by
    rw [List.getElem?_map, listed, Option.map_some]
  obtain ⟨bound, _⟩ := List.getElem?_eq_some_iff.mp named
  rw [Program.nameOf_eq, ← same, List.getElem?_append_left bound, named, Option.getD_some]

/-- The call that is listed for a call site. -/
def call? (snapshot : Snapshot) (site : CallSite) : Option CallEntry :=
  (snapshot.callsOf site.caller)[site.index]?

/-- The sandbox in whose block a call is listed. -/
def regionOf? (snapshot : Snapshot) (site : CallSite) : Option String :=
  (snapshot.call? site).bind CallEntry.region

theorem Restates.hasCall_iff {snapshot : Snapshot} {program : Program}
    (restates : snapshot.Restates program) {site : CallSite} :
    program.hasCall site ↔ (snapshot.call? site).isSome := by
  have same := Success.length_of_mapM_eq_some (restates.bodies site.caller)
  rw [Program.hasCall_eq_isSome_call?, Program.call?_eq, call?]
  simp [same]

theorem Restates.hasCall_of_region {snapshot : Snapshot} {program : Program}
    (restates : snapshot.Restates program) {site : CallSite} {name : String}
    (region : snapshot.regionOf? site = some name) : program.hasCall site := by
  obtain ⟨call, listed, _⟩ := Option.bind_eq_some_iff.mp region
  rw [restates.hasCall_iff, listed, Option.isSome_some]

end Snapshot

end SandboxRpc
