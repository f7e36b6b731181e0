import Mathlib.Data.List.Dedup
import SandboxRpc.Proofs.Program.Handles

/-!
# Programs are built by adding

A program comes about by changes from an empty one: procedures are declared, calls are added,
globals are set and call sites annotated, in any order. A change hands out a handle for what it
adds, and `Program.makeAll?` keeps the history of both.

`Continues` says what every change leaves alone and `Records` what a history tells of the program
that it leads to, and that its index of names fits its procedures; both are closed under making one
change after another. `makeAll?_keeps` follows: procedures and calls are numbered
without gaps, names are found where they were declared, and a handle means the same for ever.
-/

namespace SandboxRpc

namespace Program

/-- A change to a program. -/
inductive Change where
  | declare (name : String) (arity : Option Nat)
  | addCall (caller : ProcedureId) (call : Call)
  | setGlobal (name : String) (initializer : Initializer ProcedureId)
  | annotate (site : CallSite) (targets : List ProcedureId)

/-- What a change hands out. -/
inductive Handle where
  | procedure (id : ProcedureId)
  | site (site : CallSite)
  | nothing

/-- Makes a change. A call has to have a caller. -/
def Change.make? (program : Program) : Change → Option (Handle × Program)
  | declare name arity =>
    some (.procedure (program.declare name arity).1, (program.declare name arity).2)
  | addCall caller call =>
    (program.addCall? caller call).map fun added => (.site added.1, added.2)
  | setGlobal name initializer => some (.nothing, program.setGlobal name initializer)
  | annotate site targets => some (.nothing, program.annotate site targets)

/-- Changes with what they handed out. -/
abbrev History := List (Change × Handle)

/-- Makes several changes in turn. -/
def makeAll? (program : Program) : List Change → Option (History × Program)
  | [] => some ([], program)
  | change :: changes => do
    let (handle, changed) ← change.make? program
    let (history, final) ← changed.makeAll? changes
    return ((change, handle) :: history, final)

/-- The name that a change declares. -/
def Change.declared? : Change → Option String
  | declare name _ => some name
  | _ => none

/-- The arity that a change gives to a name. -/
def Change.arityFor? (name : String) : Change → Option (Option Nat)
  | declare declared arity => if declared = name then some arity else none
  | _ => none

/-- The call site that was handed out for a call added to this procedure. -/
def History.siteIn? (caller : ProcedureId) : Change × Handle → Option CallSite
  | (.addCall into _, .site site) => if into = caller then some site else none
  | _ => none

variable {program before middle after : Program} {name : String} {id : ProcedureId}
  {site : CallSite}

/-! ## Queries after a change -/

theorem callsOf_eq_of_bodyOf_eq (same : after.bodyOf id = before.bodyOf id) :
    after.callsOf id = before.callsOf id := by
  rw [callsOf, callsOf, callCount_eq, callCount_eq, same]

section Added

variable {caller : ProcedureId} {call : Call} (declared : caller ∈ program.procedureIds)
include declared

theorem callsOf_addCall :
    (program.addCall caller call).callsOf id =
      program.callsOf id ++ if caller = id then [program.nextCall caller] else [] := by
  rw [callsOf, callsOf, callCount_eq, bodyOf_addCall (mem_procedureIds_iff_names.mp declared),
    callCount_eq, nextCall]
  by_cases same : caller = id
  · subst same
    simp [List.range_succ, callCount_eq]
  · simp [same]

theorem call?_addCall_of_some {known : Call} (found : program.call? site = some known) :
    (program.addCall caller call).call? site = some known := by
  rw [call?_eq] at found ⊢
  rwa [bodyOf_addCall (mem_procedureIds_iff_names.mp declared),
    List.getElem?_append_left (List.getElem?_eq_some_iff.mp found).1]

theorem call?_addCall_new :
    (program.addCall caller call).call? (program.nextCall caller) = some call := by
  rw [call?_eq, nextCall, bodyOf_addCall (mem_procedureIds_iff_names.mp declared), callCount_eq]
  simp

end Added

theorem addCall?_eq_some_iff {caller : ProcedureId} {call : Call} {added : CallSite × Program} :
    program.addCall? caller call = some added ↔ caller ∈ program.procedureIds ∧
      added = (program.nextCall caller, program.addCall caller call) := by
  rw [addCall?, Option.map_eq_some_iff, mem_procedureIds]
  constructor
  · rintro ⟨procedure, found, same⟩
    exact ⟨(Array.getElem?_eq_some_iff.mp found).1, same.symm⟩
  · rintro ⟨declared, same⟩
    exact ⟨_, Array.getElem?_eq_getElem declared, same.symm⟩

/-! ## What changes leave alone -/

/-- A program was added to: what there was before is the same as ever. -/
structure Continues (before after : Program) : Prop extends Extends before after where
  arities : ∀ id ∈ before.procedureIds, after.arityOf id = before.arityOf id
  calls : ∀ site call, before.call? site = some call → after.call? site = some call

namespace Continues

theorem refl (program : Program) : Continues program program where
  toExtends := .refl program
  arities _ _ := rfl
  calls _ _ found := found

theorem mem_procedureIds (grown : Continues before after) (declared : id ∈ before.procedureIds) :
    id ∈ after.procedureIds := by
  rw [mem_procedureIds_iff_names] at declared ⊢
  exact Nat.lt_of_lt_of_le declared grown.names.length_le

theorem trans (first : Continues before middle) (second : Continues middle after) :
    Continues before after where
  toExtends := first.toExtends.trans second.toExtends
  arities id declared :=
    (second.arities id (first.mem_procedureIds declared)).trans (first.arities id declared)
  calls site call found := second.calls site call (first.calls site call found)

theorem nameOf (grown : Continues before after) (declared : id ∈ before.procedureIds) :
    after.nameOf id = before.nameOf id := by
  rw [mem_procedureIds_iff_names] at declared
  rw [nameOf_eq, nameOf_eq, List.getElem?_eq_getElem declared,
    (List.prefix_iff_getElem?.mp grown.names) id.index declared]

theorem hasCall (grown : Continues before after) (present : before.hasCall site) :
    after.hasCall site ∧ after.targetOf site = before.targetOf site ∧
      after.argumentsOf site = before.argumentsOf site := by
  rw [hasCall_eq_isSome_call?] at present
  obtain ⟨call, found⟩ := Option.isSome_iff_exists.mp present
  have same := grown.calls site call found
  refine ⟨?_, ?_, ?_⟩
  · rw [hasCall_eq_isSome_call?, same, Option.isSome_some]
  · rw [targetOf, targetOf, same, found]
  · rw [argumentsOf, argumentsOf, same, found]

theorem declare (program : Program) (name : String) (arity : Option Nat) :
    Continues program (program.declare name arity).2 where
  toExtends := .declare program name arity
  arities _ declared := arityOf_declare_of_mem declared
  calls site call found := by rwa [call?_eq, bodyOf_declare, ← call?_eq]

theorem addCall {caller : ProcedureId} (declared : caller ∈ program.procedureIds) (call : Call) :
    Continues program (program.addCall caller call) where
  toExtends := .of_names_eq names_addCall rfl
  arities _ _ := arityOf_addCall
  calls _ _ found := call?_addCall_of_some declared found

theorem setGlobal (program : Program) (name : String) (initializer : Initializer ProcedureId) :
    Continues program (program.setGlobal name initializer) where
  toExtends := .of_names_eq names_setGlobal rfl
  arities _ _ := rfl
  calls _ _ found := found

theorem annotate (program : Program) (site : CallSite) (targets : List ProcedureId) :
    Continues program (program.annotate site targets) where
  toExtends := .of_names_eq names_annotate rfl
  arities _ _ := rfl
  calls _ _ found := found

end Continues

/-! ## What a history tells -/

/-- A history tells how a program has become another one, whose index fits. -/
structure Records (before : Program) (history : History) (after : Program) : Prop where
  continues : Continues before after
  indexed : after.IsIndexed
  names : ∀ name, name ∈ after.names ↔
    name ∈ before.names ∨ ∃ entry ∈ history, entry.1.declared? = some name
  procedures : ∀ name arity id, (.declare name arity, .procedure id) ∈ history →
    after.find? name = some id
  /-- What is said first of a procedure stands. -/
  arities : ∀ name id, before.find? name = none → after.find? name = some id →
    history.findSome? (fun entry => entry.1.arityFor? name) = some (after.arityOf id)
  sites : ∀ id, after.callsOf id = before.callsOf id ++ history.filterMap (History.siteIn? id)
  calls : ∀ caller call site, (.addCall caller call, .site site) ∈ history →
    after.call? site = some call

namespace Records

theorem nil (indexed : program.IsIndexed) : Records program [] program where
  continues := .refl program
  indexed := indexed
  names := by simp
  procedures := by simp
  arities name id missing found := by
    rw [missing] at found
    cases found
  sites := by simp
  calls := by simp

theorem append {earlier later : History} (first : Records before earlier middle)
    (second : Records middle later after) : Records before (earlier ++ later) after where
  continues := first.continues.trans second.continues
  indexed := second.indexed
  names name := by
    rw [second.names, first.names]
    simp only [List.mem_append, or_and_right, exists_or, or_assoc]
  procedures name arity id done := by
    rcases List.mem_append.mp done with early | late
    · exact second.continues.find? (first.procedures name arity id early)
    · exact second.procedures name arity id late
  arities name id missing found := by
    rw [List.findSome?_append]
    cases between : middle.find? name with
    | some known =>
      obtain rfl : known = id :=
        Option.some.inj ((second.continues.find? between).symm.trans found)
      rw [first.arities name known missing between, Option.some_or,
        second.continues.arities known (first.indexed.mem_procedureIds_of_find? between)]
    | none =>
      have silent : earlier.findSome? (fun entry => entry.1.arityFor? name) = none := by
        refine List.findSome?_eq_none_iff.mpr fun entry member => ?_
        have other : entry.1.declared? ≠ some name := fun declared =>
          first.indexed.find?_eq_none_iff.mp between
            ((first.names name).mpr (.inr ⟨entry, member, declared⟩))
        cases change : entry.1 with
        | declare declared arity => simpa [Change.arityFor?, Change.declared?, change] using other
        | _ => rfl
      rw [silent, Option.none_or, second.arities name id between found]
  sites id := by rw [second.sites, first.sites, List.filterMap_append, List.append_assoc]
  calls caller call site done := by
    rcases List.mem_append.mp done with early | late
    · exact second.continues.calls site call (first.calls caller call site early)
    · exact second.calls caller call site late

theorem declare (indexed : program.IsIndexed) (name : String) (arity : Option Nat) :
    Records program
      [(.declare name arity, .procedure (program.declare name arity).1)]
      (program.declare name arity).2 where
  continues := .declare program name arity
  indexed := isIndexed_declare indexed arity
  names other := by
    rw [names_declare indexed]
    split
    · rename_i known
      simp only [List.mem_singleton, exists_eq_left, Change.declared?, Option.some_inj]
      constructor
      · exact .inl
      · rintro (member | rfl)
        · exact member
        · exact known
    · simp [Change.declared?, eq_comm]
  procedures other arity' id done := by
    cases List.mem_singleton.mp done
    exact find?_declare
  arities other id missing found := by
    have named : other = name := by
      by_contra different
      have known := List.mem_of_getElem? ((isIndexed_declare indexed arity other id).mp found)
      rw [names_declare indexed] at known
      have unknown := indexed.find?_eq_none_iff.mp missing
      split at known
      · exact unknown known
      · simp [unknown, different] at known
    subst named
    obtain rfl := Option.some.inj (found.symm.trans find?_declare)
    simp [Change.arityFor?, arityOf_declare_new missing]
  sites id := by
    rw [callsOf_eq_of_bodyOf_eq bodyOf_declare]
    simp [History.siteIn?]
  calls := by simp

/-- A change that neither declares a name nor adds a call. -/
theorem of_aside {change : Change} (indexed : program.IsIndexed)
    (continues : Continues program after) (names : after.names = program.names)
    (index : after.byName = program.byName) (bodies : ∀ id, after.bodyOf id = program.bodyOf id)
    (silent : change.declared? = none) : Records program [(change, .nothing)] after where
  continues := continues
  indexed := continues.indexed indexed
  names name := by simp [names, silent]
  procedures := by simp
  arities name id missing found := by
    rw [find?, index, ← find?, missing] at found
    cases found
  sites id := by
    rw [callsOf_eq_of_bodyOf_eq (bodies id)]
    cases change <;> simp [History.siteIn?]
  calls := by simp

theorem addCall (indexed : program.IsIndexed) {caller : ProcedureId}
    (declared : caller ∈ program.procedureIds) (call : Call) :
    Records program [(.addCall caller call, .site (program.nextCall caller))]
      (program.addCall caller call) where
  continues := .addCall declared call
  indexed := indexed.of_names_eq names_addCall rfl
  names name := by simp [Change.declared?]
  procedures := by simp
  arities name id missing found := by
    have same : (program.addCall caller call).find? name = program.find? name := rfl
    rw [same, missing] at found
    cases found
  sites id := by
    rw [callsOf_addCall declared, List.filterMap_cons, List.filterMap_nil, History.siteIn?]
    split <;> simp_all
  calls into added site done := by
    cases List.mem_singleton.mp done
    exact call?_addCall_new declared

end Records

/-! ## Histories of programs -/

/-- A call can be added if there is its caller, and every other change can be made. -/
theorem isSome_make? {change : Change} :
    (change.make? program).isSome ↔
      ∀ caller call, change = .addCall caller call → caller ∈ program.procedureIds := by
  cases change with
  | addCall caller call =>
    rw [Change.make?, Option.isSome_map, addCall?, Option.isSome_map, procedure?]
    simp
  | declare name arity => simp [Change.make?]
  | setGlobal name initializer => simp [Change.make?]
  | annotate site targets => simp [Change.make?]

theorem records_make? {change : Change} {handle : Handle} (indexed : program.IsIndexed)
    (made : change.make? program = some (handle, after)) :
    Records program [(change, handle)] after := by
  cases change with
  | declare name arity =>
    cases made
    exact .declare indexed name arity
  | addCall caller call =>
    obtain ⟨added, found, same⟩ := Option.map_eq_some_iff.mp made
    obtain ⟨declared, rfl⟩ := addCall?_eq_some_iff.mp found
    cases same
    exact .addCall indexed declared call
  | setGlobal name initializer =>
    cases made
    exact .of_aside indexed (.setGlobal program name initializer) names_setGlobal rfl
      (fun _ => bodyOf_setGlobal) rfl
  | annotate site targets =>
    cases made
    exact .of_aside indexed (.annotate program site targets) names_annotate rfl
      (fun _ => bodyOf_annotate) rfl

theorem records_makeAll? {changes : List Change} {history : History} (indexed : program.IsIndexed)
    (made : program.makeAll? changes = some (history, after)) :
    history.map Prod.fst = changes ∧ Records program history after := by
  induction changes generalizing program history with
  | nil =>
    cases made
    exact ⟨rfl, .nil indexed⟩
  | cons change changes ih =>
    obtain ⟨⟨handle, changed⟩, first, made⟩ := Option.bind_eq_some_iff.mp made
    obtain ⟨⟨later, final⟩, rest, same⟩ := Option.bind_eq_some_iff.mp made
    cases same
    have records := records_make? indexed first
    obtain ⟨done, later⟩ := ih records.indexed rest
    exact ⟨congrArg _ done, records.append later⟩

/-! ## Programs that were empty once -/

theorem Records.names_perm {history : History} (records : Records {} history program) :
    program.names.Perm (history.filterMap fun entry => entry.1.declared?).dedup := by
  refine (List.perm_ext_iff_of_nodup records.indexed.distinct (List.nodup_dedup _)).mpr
    fun name => ?_
  rw [records.names, List.mem_dedup, List.mem_filterMap]
  exact or_iff_right List.not_mem_nil

/-- A call site is there if it was handed out. -/
theorem Records.hasCall_iff {history : History} (records : Records {} history program) :
    program.hasCall site ↔ ∃ caller call, (.addCall caller call, .site site) ∈ history := by
  constructor
  · intro present
    have listed : site ∈ program.callsOf site.caller := mem_callsOf.mpr ⟨rfl, present⟩
    rw [records.sites] at listed
    obtain ⟨⟨change, handle⟩, done, handed⟩ := List.mem_filterMap.mp listed
    cases change with
    | addCall caller call =>
      cases handle with
      | site given =>
        rw [History.siteIn?, Option.ite_none_right_eq_some] at handed
        cases handed.2
        exact ⟨caller, call, done⟩
      | _ => cases handed
    | _ => cases handed
  · rintro ⟨caller, call, done⟩
    rw [hasCall_eq_isSome_call?, records.calls caller call site done, Option.isSome_some]

/-- A program that is built by adding has one procedure for each name declared, numbered without
gaps and found by its name, and in each procedure the calls that were added to it, in order. Later
changes leave all this alone; a name that is declared again changes nothing at all. -/
theorem makeAll?_keeps {changes : List Change} {history : History}
    (made : makeAll? {} changes = some (history, program)) :
    history.map Prod.fst = changes ∧
    program.procedureIds =
      (List.range (changes.filterMap Change.declared?).dedup.length).map ProcedureId.mk ∧
    (∀ id ∈ program.procedureIds, ∀ other ∈ program.procedureIds,
      program.nameOf id = program.nameOf other → id = other) ∧
    (∀ name id, program.find? name = some id ↔
      id ∈ program.procedureIds ∧ program.nameOf id = name) ∧
    (∀ name arity id, (.declare name arity, .procedure id) ∈ history →
      program.find? name = some id) ∧
    (∀ id ∈ program.procedureIds,
      changes.findSome? (Change.arityFor? (program.nameOf id)) = some (program.arityOf id)) ∧
    (∀ id, program.callsOf id = history.filterMap (History.siteIn? id)) ∧
    (∀ site, program.hasCall site ↔
      ∃ caller call, (.addCall caller call, .site site) ∈ history) ∧
    (∀ caller call site, (.addCall caller call, .site site) ∈ history →
      program.targetOf site = call.target ∧ program.argumentsOf site = call.arguments) ∧
    (∀ name arity id, program.find? name = some id → program.declare name arity = (id, program)) ∧
    (∀ change : Change, (change.make? program).isSome ↔
      ∀ caller call, change = .addCall caller call → caller ∈ program.procedureIds) ∧
    ∀ more later final, program.makeAll? more = some (later, final) →
      (∀ id ∈ program.procedureIds, id ∈ final.procedureIds ∧
        final.nameOf id = program.nameOf id ∧ final.arityOf id = program.arityOf id) ∧
      ∀ site, program.hasCall site → final.hasCall site ∧
        final.targetOf site = program.targetOf site ∧
        final.argumentsOf site = program.argumentsOf site := by
  obtain ⟨done, records⟩ := records_makeAll? isIndexed_empty made
  have indexed : program.IsIndexed := records.indexed
  subst done
  refine ⟨rfl, ?_, fun id declared other declared' => indexed.eq_of_nameOf_eq declared declared',
    fun name id => indexed.find?_eq_some_iff, records.procedures, ?_, ?_,
    fun site => records.hasCall_iff, ?_, ?_, fun change => isSome_make?, ?_⟩
  · rw [List.filterMap_map]
    have number := records.names_perm.length_eq
    rw [names, List.length_map, Array.length_toList] at number
    rw [procedureIds, number]
    rfl
  · intro id declared
    rw [List.findSome?_map]
    have none : (({} : Program).find? (program.nameOf id)) = none :=
      isIndexed_empty.find?_eq_none_iff.mpr List.not_mem_nil
    exact records.arities _ id none (indexed.find?_eq_some_iff.mpr ⟨declared, rfl⟩)
  · exact records.sites
  · intro caller call site added
    have stands := records.calls caller call site added
    rw [targetOf, argumentsOf, stands]
    exact ⟨rfl, rfl⟩
  · intro name arity id known
    rw [declare, known]
  · intro more later final ran
    have continues := (records_makeAll? indexed ran).2.continues
    exact ⟨fun id declared => ⟨continues.mem_procedureIds declared, continues.nameOf declared,
      continues.arities id declared⟩, fun site => continues.hasCall⟩

/-- `main` calls itself, a procedure that is declared later, and is declared again. -/
theorem makeAll?_keeps_redeclared :
    let changes : List Change := [
      .declare "main" (some 0), .addCall ⟨0⟩ ⟨.direct ⟨0⟩, []⟩, .addCall ⟨0⟩ ⟨.direct ⟨1⟩, []⟩,
      .declare "main" (some 7), .declare "helper" none]
    let more : List Change := [.addCall ⟨1⟩ ⟨.indirect, []⟩, .declare "helper" (some 2)]
    ∃ history program later final, makeAll? {} changes = some (history, program) ∧
      program.makeAll? more = some (later, final) ∧
      program.callsOf ⟨0⟩ = [⟨⟨0⟩, 0⟩, ⟨⟨0⟩, 1⟩] ∧
      ⟨1⟩ ∈ program.procedureIds ∧ final.arityOf ⟨1⟩ = none := by
  intro changes more
  have checked : (makeAll? {} changes).any (fun made =>
      (made.2.makeAll? more).isSome ∧ ⟨1⟩ ∈ made.2.procedureIds ∧ made.2.arityOf ⟨1⟩ = none ∧
      made.1.filterMap (History.siteIn? ⟨0⟩) = [⟨⟨0⟩, 0⟩, ⟨⟨0⟩, 1⟩]) = true := by
    decide +kernel
  obtain ⟨⟨history, program⟩, made, facts⟩ := (Option.any_eq_true _ _).mp checked
  simp only [decide_eq_true_eq] at facts
  obtain ⟨runs, declared, unknown, handed⟩ := facts
  obtain ⟨⟨later, final⟩, ran⟩ := Option.isSome_iff_exists.mp runs
  obtain ⟨_, _, _, _, _, _, sites, _, _, _, _, kept⟩ := makeAll?_keeps made
  obtain ⟨_, _, arity⟩ := (kept more later final ran).1 ⟨1⟩ declared
  exact ⟨history, program, later, final, made, ran, (sites ⟨0⟩).trans handed, declared,
    arity.trans unknown⟩

end Program

end SandboxRpc
