import Mathlib.Data.List.Induction
import Mathlib.Data.List.Nodup
import SandboxRpc.Proofs.Snapshot.LoadedProgram

/-!
# The names of a snapshot

A snapshot knows the names of its listed procedures and all names that its globals and calls
mention. `Snapshot.references` lists what is mentioned in the order in which it is met, and
`names_withContents` says that this is the order in which the names are declared: a name that is
known already is passed over, and a new one goes to the end.
-/

namespace SandboxRpc

def CallTarget.callee? {ρ : Type} : CallTarget ρ → Option ρ
  | .direct callee => some callee
  | .indirect => none

theorem CallTarget.callee?_eq_some_iff {ρ : Type} {target : CallTarget ρ} {callee : ρ} :
    target.callee? = some callee ↔ target = .direct callee := by
  cases target with
  | direct _ => simp [callee?]
  | indirect => simp [callee?]

namespace Snapshot

/-! ## Known names -/

def listedNames (snapshot : Snapshot) : List String :=
  snapshot.procedures.map ProcedureEntry.name

/-- The procedures that a call mentions, its callee first. -/
def CallEntry.mentions (entry : CallEntry) : List String :=
  entry.target.callee?.toList ++ entry.arguments.filterMap Value.function?

/-- The procedures that globals and calls mention, in the order in which they are met. -/
def references (snapshot : Snapshot) : List String :=
  (snapshot.globals.toList.filterMap fun entry => entry.2.function?) ++
    snapshot.procedures.flatMap fun procedure => procedure.calls.flatMap CallEntry.mentions

/-- A snapshot knows a name that is listed, called directly, passed as a function pointer under any
number of casts, or given to a global as its initializer. -/
inductive Knows (snapshot : Snapshot) (name : String) : Prop where
  | listed {procedure : ProcedureEntry} (member : procedure ∈ snapshot.procedures)
      (named : procedure.name = name)
  | called {procedure : ProcedureEntry} {call : CallEntry}
      (member : procedure ∈ snapshot.procedures) (made : call ∈ procedure.calls)
      (target : call.target = .direct name)
  | passed {procedure : ProcedureEntry} {call : CallEntry} {argument : Value String}
      (member : procedure ∈ snapshot.procedures) (made : call ∈ procedure.calls)
      (given : argument ∈ call.arguments) (pointer : argument.stripCasts = .function name)
  | held {global : String} (initializer : snapshot.globals[global]? = some (.function name))

theorem CallEntry.mem_mentions {entry : CallEntry} {name : String} :
    name ∈ entry.mentions ↔ entry.target = .direct name ∨
      ∃ argument ∈ entry.arguments, argument.stripCasts = .function name := by
  simp only [mentions, List.mem_append, Option.mem_toList, List.mem_filterMap,
    CallTarget.callee?_eq_some_iff, Value.function?_eq_some_iff]

theorem mem_references {snapshot : Snapshot} {name : String} :
    name ∈ snapshot.references ↔
      (∃ global : String, snapshot.globals[global]? = some (.function name)) ∨
      ∃ procedure ∈ snapshot.procedures, ∃ call ∈ procedure.calls, name ∈ call.mentions := by
  -- An entry of the table is given by its name.
  have global (entry : String × Initializer String) : entry ∈ snapshot.globals.toList ∧
      entry.2.function? = some name ↔ snapshot.globals[entry.1]? = some (.function name) ∧
        entry = (entry.1, .function name) := by
    rw [Initializer.function?_eq_some_iff, ← Std.ExtTreeMap.mem_toList_iff_getElem?_eq_some]
    constructor
    · rintro ⟨member, initial⟩
      have same : entry = (entry.1, .function name) := Prod.ext rfl initial
      exact ⟨same ▸ member, same⟩
    · rintro ⟨member, same⟩
      exact ⟨same ▸ member, congrArg Prod.snd same⟩
  simp only [references, List.mem_append, List.mem_filterMap, List.mem_flatMap, global]
  apply or_congr_left
  constructor
  · rintro ⟨entry, found, _⟩
    exact ⟨entry.1, found⟩
  · rintro ⟨name', found⟩
    exact ⟨(name', .function name), found, rfl⟩

theorem knows_iff {snapshot : Snapshot} {name : String} :
    snapshot.Knows name ↔ name ∈ snapshot.listedNames ∨ name ∈ snapshot.references := by
  rw [mem_references, listedNames, List.mem_map]
  constructor
  · intro known
    cases known with
    | listed member named => exact .inl ⟨_, member, named⟩
    | called member made target =>
      exact .inr (.inr ⟨_, member, _, made, CallEntry.mem_mentions.mpr (.inl target)⟩)
    | passed member made given pointer =>
      exact .inr (.inr ⟨_, member, _, made, CallEntry.mem_mentions.mpr (.inr ⟨_, given, pointer⟩)⟩)
    | held initializer => exact .inr (.inl ⟨_, initializer⟩)
  · rintro (⟨procedure, member, named⟩ | ⟨global, initializer⟩ |
      ⟨procedure, member, call, made, mentioned⟩)
    · exact .listed member named
    · exact .held initializer
    · rcases CallEntry.mem_mentions.mp mentioned with target | ⟨argument, given, pointer⟩
      · exact .called member made target
      · exact .passed member made given pointer

instance (snapshot : Snapshot) (name : String) : Decidable (snapshot.Knows name) :=
  decidable_of_iff _ knows_iff.symm

/-! ## Names in order of first mention -/

def takeUp (known : List String) (name : String) : List String :=
  if name ∈ known then known else known ++ [name]

def takeUpAll (known names : List String) : List String :=
  names.foldl takeUp known

theorem takeUpAll_append {known first second : List String} :
    takeUpAll known (first ++ second) = takeUpAll (takeUpAll known first) second :=
  List.foldl_append

/-- The names that are new, each once, in the order in which they come first. -/
structure IsNew (known names new : List String) : Prop where
  distinct : new.Nodup
  members : ∀ name, name ∈ new ↔ name ∈ names ∧ name ∉ known
  ordered : new.Pairwise fun first second => names.idxOf first < names.idxOf second

theorem takeUpAll_eq (known names : List String) :
    ∃ new, takeUpAll known names = known ++ new ∧ IsNew known names new := by
  -- A further name comes after all names before it, so the induction is from the end.
  induction names using List.reverseRecOn with
  | nil => exact ⟨[], (List.append_nil known).symm, List.nodup_nil, by simp, .nil⟩
  | append_singleton names last ih =>
    obtain ⟨new, taken, isNew⟩ := ih
    have before {name : String} (member : name ∈ new) : name ∈ names :=
      ((isNew.members name).mp member).1
    have position {name : String} (member : name ∈ new) :
        (names ++ [last]).idxOf name = names.idxOf name :=
      List.idxOf_append_of_mem (before member)
    have ordered : new.Pairwise fun first second =>
        (names ++ [last]).idxOf first < (names ++ [last]).idxOf second := by
      refine isNew.ordered.imp_of_mem fun first second earlier => ?_
      rwa [position first, position second]
    rw [takeUpAll_append, taken]
    show ∃ new', takeUp (known ++ new) last = known ++ new' ∧ _
    by_cases old : last ∈ known ++ new
    -- A name that is there already was known at first or mentioned earlier.
    · refine ⟨new, if_pos old, isNew.distinct, fun name => ?_, ordered⟩
      rw [isNew.members, List.mem_append, List.mem_singleton]
      have listed : last ∈ known ∨ last ∈ names := (List.mem_append.mp old).imp_right before
      grind
    -- A name that is not has not been mentioned, or it would have been taken up.
    · have unknown : last ∉ known := fun member => old (List.mem_append_left new member)
      have unmentioned : last ∉ names := fun member =>
        old (List.mem_append_right known ((isNew.members last).mpr ⟨member, unknown⟩))
      have fresh : last ∉ new := fun member => unmentioned (before member)
      refine ⟨new ++ [last], ?_, ?_, fun name => ?_, ?_⟩
      · rw [takeUp, if_neg old, List.append_assoc]
      · exact List.nodup_append.mpr ⟨isNew.distinct, List.nodup_singleton last, by
          intro name member _ single same
          rw [same, List.mem_singleton.mp single] at member
          exact fresh member⟩
      · rw [List.mem_append, List.mem_append, isNew.members, List.mem_singleton]
        grind
      · refine List.pairwise_append.mpr ⟨ordered, List.pairwise_singleton _ last, ?_⟩
        intro name member _ single
        rw [List.mem_singleton.mp single, position member,
          List.idxOf_append_of_notMem unmentioned]
        have inside : names.idxOf name < names.length := List.idxOf_lt_length_iff.mpr (before member)
        omega

theorem mem_takeUpAll {known names : List String} {name : String} :
    name ∈ takeUpAll known names ↔ name ∈ known ∨ name ∈ names := by
  obtain ⟨new, taken, isNew⟩ := takeUpAll_eq known names
  rw [taken, List.mem_append, isNew.members]
  grind

/-! ## Declaring names one by one -/

end Snapshot

namespace Program

variable {program : Program} {name : String} {names : List String} {id : ProcedureId}

/-- Declares names of which nothing else is known. -/
def declareAll (program : Program) (names : List String) : Program :=
  names.foldl (fun program name => (program.declare name none).2) program

theorem declareAll_append {first second : List String} :
    program.declareAll (first ++ second) = (program.declareAll first).declareAll second :=
  List.foldl_append

theorem names_declareAll (indexed : program.IsIndexed) :
    (program.declareAll names).names = Snapshot.takeUpAll program.names names ∧
      (program.declareAll names).IsIndexed := by
  induction names generalizing program with
  | nil => exact ⟨rfl, indexed⟩
  | cons name names ih =>
    have first : (program.declare name none).2.names = Snapshot.takeUp program.names name :=
      names_declare indexed
    obtain ⟨rest, fits⟩ := ih (isIndexed_declare indexed none)
    refine ⟨?_, fits⟩
    show ((program.declare name none).2.declareAll names).names = _
    rw [rest, first]
    rfl

theorem arityOf_declare : (program.declare name none).2.arityOf id = program.arityOf id := by
  rw [declare]
  split
  · rfl
  · simp only [arityOf, procedure?, Array.getElem?_push]
    split
    · rename_i last
      simp [last]
    · rfl

theorem globals_declare : (program.declare name none).2.globals = program.globals := by
  rw [declare]
  split <;> rfl

theorem annotations_declare : (program.declare name none).2.annotations = program.annotations := by
  rw [declare]
  split <;> rfl

/-- What one declaration leaves alone, several do. -/
theorem declareAll_keeps {β : Type} (table : Program → β)
    (each : ∀ (program : Program) (name : String),
      table (program.declare name none).2 = table program) :
    table (program.declareAll names) = table program := by
  induction names generalizing program with
  | nil => rfl
  | cons name names ih =>
    have rest : table ((program.declare name none).2.declareAll names) =
        table (program.declare name none).2 := ih
    exact rest.trans (each program name)

end Program

namespace Snapshot

/-! ## Actions that mention names -/

/-- All that an action does to a program is to declare these names, in this order. -/
def Mentions {α : Type} (action : StateM Program α) (names : List String) : Prop :=
  ∀ program : Program, (action program).2 = program.declareAll names

namespace Mentions

variable {α β : Type}

theorem pure (value : α) : Mentions (pure value) [] := fun _ => rfl

theorem bind {action : StateM Program α} {next : α → StateM Program β} {first second : List String}
    (now : Mentions action first) (later : ∀ value, Mentions (next value) second) :
    Mentions (action >>= next) (first ++ second) := by
  intro program
  rw [Program.declareAll_append, ← now program]
  exact later (action program).1 (action program).2

theorem map {action : StateM Program α} {names : List String} (mentions : Mentions action names)
    (f : α → β) : Mentions (f <$> action) names :=
  fun program => mentions program

theorem mapM {action : α → StateM Program β} {names : α → List String}
    (each : ∀ item, Mentions (action item) (names item)) (items : List α) :
    Mentions (items.mapM action) (items.flatMap names) := by
  induction items with
  | nil => exact pure []
  | cons item items ih =>
    rw [List.mapM_cons, List.flatMap_cons]
    exact (each item).bind fun first => ih.map (first :: ·)

theorem mention (name : String) : Mentions (mention name) [name] := fun _ => rfl

theorem callTarget (target : CallTarget String) :
    Mentions (target.traverse Snapshot.mention) target.callee?.toList := by
  cases target with
  | direct callee => exact (mention callee).map CallTarget.direct
  | indirect => exact pure CallTarget.indirect

theorem value (operand : Value String) :
    Mentions (operand.traverse Snapshot.mention) operand.function?.toList := by
  induction operand with
  | global name => exact pure (Value.global name)
  | function procedure => exact (mention procedure).map Value.function
  | cast inner ih => exact ih.map Value.cast
  | int number => exact pure (Value.int number)
  | computed => exact pure Value.computed

theorem initializer (initializer : Initializer String) :
    Mentions (initializer.traverse Snapshot.mention) initializer.function?.toList := by
  cases initializer with
  | characters text => exact pure (Initializer.characters text)
  | function procedure => exact (mention procedure).map Initializer.function
  | other => exact pure Initializer.other

theorem call (entry : CallEntry) : Mentions entry.declare entry.mentions := by
  rw [CallEntry.mentions, List.filterMap_eq_flatMap_toList]
  exact (callTarget entry.target).bind fun target =>
    (mapM value entry.arguments).map (Call.mk target)

end Mentions

/-! ## The contents of a snapshot -/

theorem addGlobal_eq (program : Program) (entry : String × Initializer String) :
    addGlobal program entry =
      (program.declareAll entry.2.function?.toList).setGlobal entry.1
        (entry.2.traverse mention program).1 := by
  rw [← Mentions.initializer entry.2 program]
  rfl

theorem addCall_eq_declareAll (caller : ProcedureId) (entry : CallEntry) (program : Program) :
    (addCall caller entry program).2 =
      (program.declareAll entry.mentions).addCall caller (entry.declare program).1 := by
  rw [← Mentions.call entry program]
  rfl

theorem names_foldl {α : Type} {step : Program → α → Program} {names : α → List String}
    (each : ∀ program item, program.IsIndexed →
      (step program item).names = takeUpAll program.names (names item) ∧
        (step program item).IsIndexed)
    (items : List α) {program : Program} (indexed : program.IsIndexed) :
    (items.foldl step program).names = takeUpAll program.names (items.flatMap names) ∧
      (items.foldl step program).IsIndexed := by
  induction items generalizing program with
  | nil => exact ⟨rfl, indexed⟩
  | cons item items ih =>
    obtain ⟨first, fits⟩ := each program item indexed
    rw [List.flatMap_cons, takeUpAll_append, ← first]
    exact ih fits

theorem foldl_keeps {α β : Type} {step : Program → α → Program} (table : Program → β)
    (each : ∀ program item, table (step program item) = table program) (items : List α)
    (program : Program) : table (items.foldl step program) = table program := by
  induction items generalizing program with
  | nil => rfl
  | cons item items ih => exact (ih (step program item)).trans (each program item)

theorem flatMap_callEntries (snapshot : Snapshot) :
    (snapshot.callEntries.flatMap fun item => item.2.mentions) =
      snapshot.procedures.flatMap fun procedure => procedure.calls.flatMap CallEntry.mentions := by
  conv_rhs => rw [← List.zipIdx_map_fst 0 snapshot.procedures, List.flatMap_map]
  rw [callEntries, List.flatMap_assoc]
  congr 1
  funext procedure
  rw [bodyEntries, List.flatMap_map]

/-- What is left alone by declarations, globals and calls is left alone by contents. -/
theorem withContents_keeps {β : Type} (table : Program → β)
    (declare : ∀ (program : Program) (name : String),
      table (program.declare name none).2 = table program)
    (setGlobal : ∀ (program : Program) (name : String) (initializer : Initializer ProcedureId),
      table (program.setGlobal name initializer) = table program)
    (call : ∀ (program : Program) (caller : ProcedureId) (made : Call),
      table (program.addCall caller made) = table program)
    (snapshot : Snapshot) (program : Program) :
    table (snapshot.withContents program) = table program := by
  have globals (program : Program) (entry : String × Initializer String) :
      table (addGlobal program entry) = table program := by
    rw [addGlobal_eq, setGlobal, Program.declareAll_keeps table declare]
  have calls (program : Program) (item : ProcedureId × CallEntry) :
      table (addCall item.1 item.2 program).2 = table program := by
    rw [addCall_eq_declareAll, call, Program.declareAll_keeps table declare]
  rw [withContents, ← foldl_keeps table globals snapshot.globals.toList program]
  exact foldl_keeps table calls snapshot.callEntries _

/-- Contents declare what they mention, in this order. -/
theorem names_withContents (snapshot : Snapshot) {program : Program} (indexed : program.IsIndexed) :
    (snapshot.withContents program).names = takeUpAll program.names snapshot.references := by
  have globals (program : Program) (entry : String × Initializer String)
      (indexed : program.IsIndexed) :
      (addGlobal program entry).names = takeUpAll program.names entry.2.function?.toList ∧
        (addGlobal program entry).IsIndexed := by
    obtain ⟨names, fits⟩ := Program.names_declareAll indexed
    rw [addGlobal_eq]
    exact ⟨names, fits.of_names_eq Program.names_setGlobal rfl⟩
  have calls (program : Program) (item : ProcedureId × CallEntry) (indexed : program.IsIndexed) :
      (addCall item.1 item.2 program).2.names = takeUpAll program.names item.2.mentions ∧
        (addCall item.1 item.2 program).2.IsIndexed := by
    obtain ⟨names, fits⟩ := Program.names_declareAll indexed
    rw [addCall_eq_declareAll, Program.names_addCall]
    exact ⟨names, fits.of_names_eq Program.names_addCall rfl⟩
  -- The calls find the names that the globals have added.
  obtain ⟨held, fits⟩ := names_foldl globals snapshot.globals.toList indexed
  rw [references, takeUpAll_append, ← flatMap_callEntries, List.filterMap_eq_flatMap_toList, ← held]
  exact (names_foldl calls snapshot.callEntries fits).1

theorem mem_names_withContents {snapshot : Snapshot} {listed : Program}
    (declared : declareListed snapshot.procedures = .ok listed) {name : String} :
    name ∈ (snapshot.withContents listed).names ↔ snapshot.Knows name := by
  have lists := lists_declareListed declared
  rw [names_withContents snapshot lists.indexed, lists.same, mem_takeUpAll, knows_iff]
  rfl

end Snapshot

end SandboxRpc
