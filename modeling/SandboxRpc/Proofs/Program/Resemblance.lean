import Mathlib.Data.List.Forall2
import SandboxRpc.Proofs.Program.Handles

/-!
# Programs that differ in spelling only

The same program can be spelt in several ways: a pointer may be wrapped in casts, and a character
array may go on after the NUL where its text ends. Two programs resemble each other if nothing else
tells them apart (`Program.Resembles`). To whoever puts only the questions of `Program.AnswersAs`
they are the same program.
-/

namespace SandboxRpc

/-! ## Related values -/

section Related

variable {α β : Type} {R : α → α → Prop} {found found' : Option α}

theorem rel_getElem?_of_forall₂ {items items' : List α} (pairs : List.Forall₂ R items items')
    (index : Nat) : Option.Rel R items[index]? items'[index]? := by
  induction pairs generalizing index with
  | nil => exact .none
  | cons related _ ih =>
    cases index with
    | zero => exact .some related
    | succ index => simpa using ih index

theorem exists_mem_iff_of_forall₂ {items items' : List α} (pairs : List.Forall₂ R items items')
    {P : α → Prop} (alike : ∀ {item item' : α}, R item item' → (P item ↔ P item')) :
    (∃ item ∈ items, P item) ↔ ∃ item ∈ items', P item := by
  induction pairs with
  | nil => rfl
  | cons related _ ih =>
    rw [List.exists_mem_cons_iff, List.exists_mem_cons_iff, alike related, ih]

theorem map_eq_of_rel (rel : Option.Rel R found found') {f g : α → β}
    (alike : ∀ {value value' : α}, R value value' → f value = g value') :
    found.map f = found'.map g := by
  cases rel with
  | none => rfl
  | some related => exact congrArg some (alike related)

theorem bind_eq_of_rel (rel : Option.Rel R found found') {f g : α → Option β}
    (alike : ∀ {value value' : α}, R value value' → f value = g value') :
    found.bind f = found'.bind g := by
  cases rel with
  | none => rfl
  | some related => exact alike related

end Related

/-! ## Operands -/

/-- Operands that differ at most in the casts around them. -/
inductive Value.Recast {ρ : Type} : Value ρ → Value ρ → Prop where
  | refl (value : Value ρ) : Recast value value
  | left {first second : Value ρ} : Recast first second → Recast (.cast first) second
  | right {first second : Value ρ} : Recast first second → Recast first (.cast second)

namespace Value.Recast

variable {ρ : Type} {first second : Value ρ} (recast : first.Recast second)
include recast

theorem stripCasts : first.stripCasts = second.stripCasts := by
  induction recast with
  | refl value => rfl
  | left _ ih => exact ih
  | right _ ih => exact ih

theorem function? : first.function? = second.function? := by
  ext procedure
  rw [Value.function?_eq_some_iff, Value.function?_eq_some_iff, recast.stripCasts]

end Value.Recast

/-! ## Character arrays -/

/-- Nothing of a text is left: the characters are used up, or a NUL comes next. -/
def IsSpent (rest : List Char) : Prop :=
  ∀ next ∈ rest.head?, next = '\x00'

/-- Character arrays that differ at most from a NUL on, where one of them may just end. -/
def SameUpToNul (first second : String) : Prop :=
  ∃ kept rest rest' : List Char, first.toList = kept ++ rest ∧ second.toList = kept ++ rest' ∧
    IsSpent rest ∧ IsSpent rest'

theorem takeWhile_append_of_isSpent {rest : List Char} (spent : IsSpent rest) (kept : List Char) :
    (kept ++ rest).takeWhile (· ≠ '\x00') = kept.takeWhile (· ≠ '\x00') := by
  induction kept with
  | nil =>
    cases rest with
    | nil => rfl
    | cons next rest => simp [spent next rfl]
  | cons character kept ih => rw [List.cons_append, List.takeWhile_cons, List.takeWhile_cons, ih]

theorem SameUpToNul.textUpToNul {first second : String} (same : SameUpToNul first second) :
    textUpToNul first = textUpToNul second := by
  obtain ⟨kept, rest, rest', start, start', spent, spent'⟩ := same
  rw [SandboxRpc.textUpToNul, SandboxRpc.textUpToNul, start, start',
    takeWhile_append_of_isSpent spent, takeWhile_append_of_isSpent spent']

/-- Initializers that differ at most in what follows the text of a character array. -/
inductive Initializer.Resembles {ρ : Type} : Initializer ρ → Initializer ρ → Prop where
  | refl (initializer : Initializer ρ) : Resembles initializer initializer
  | characters {first second : String} :
    SameUpToNul first second → Resembles (.characters first) (.characters second)

namespace Initializer.Resembles

variable {first second : Initializer ProcedureId} (resembles : first.Resembles second)
include resembles

theorem constant? : first.constant? = second.constant? := by
  cases resembles with
  | refl => rfl
  | characters same => rw [Initializer.constant?, Initializer.constant?, same.textUpToNul]

theorem eq_function_iff {id : ProcedureId} : first = .function id ↔ second = .function id := by
  cases resembles with
  | refl => rfl
  | characters _ => simp

end Initializer.Resembles

/-! ## Programs -/

structure Call.Resembles (first second : Call) : Prop where
  target : first.target = second.target
  arguments : List.Forall₂ Value.Recast first.arguments second.arguments

structure Procedure.Resembles (first second : Procedure) : Prop where
  name : first.name = second.name
  arity : first.arity = second.arity
  calls : List.Forall₂ Call.Resembles first.calls.toList second.calls.toList

namespace Program

/-- Programs that differ at most in the casts around arguments and in what follows the texts of
character arrays. -/
structure Resembles (first second : Program) : Prop where
  procedures :
    List.Forall₂ Procedure.Resembles first.procedures.toList second.procedures.toList
  byName : first.byName = second.byName
  globals : ∀ name : String,
    Option.Rel Initializer.Resembles first.globals[name]? second.globals[name]?
  annotations : first.annotations = second.annotations

/-- Two programs answer all questions alike that the analysis has about a program. -/
structure AnswersAs (first second : Program) : Prop where
  names : first.names = second.names
  find? : first.find? = second.find?
  arityOf : first.arityOf = second.arityOf
  callCount : first.callCount = second.callCount
  targetOf : first.targetOf = second.targetOf
  argumentCount : ∀ site, (first.argumentsOf site).length = (second.argumentsOf site).length
  textArgument? : first.textArgument? = second.textArgument?
  procedureArgument? : first.procedureArgument? = second.procedureArgument?
  addressTaken : first.addressTaken = second.addressTaken
  annotatedEdges : first.annotatedEdges = second.annotatedEdges

end Program

namespace Program.Resembles

variable {first second : Program} (resembles : first.Resembles second)
include resembles

theorem procedure? (id : ProcedureId) :
    Option.Rel Procedure.Resembles (first.procedure? id) (second.procedure? id) := by
  simpa [Program.procedure?] using rel_getElem?_of_forall₂ resembles.procedures id.index

theorem call? (site : CallSite) :
    Option.Rel Call.Resembles (first.call? site) (second.call? site) := by
  have callers := resembles.procedure? site.caller
  rw [Program.call?, Program.call?]
  generalize first.procedure? site.caller = caller, second.procedure? site.caller = caller'
    at callers
  cases callers with
  | none => exact .none
  | some alike => simpa using rel_getElem?_of_forall₂ alike.calls site.index

theorem argumentsOf (site : CallSite) :
    List.Forall₂ Value.Recast (first.argumentsOf site) (second.argumentsOf site) := by
  have calls := resembles.call? site
  rw [Program.argumentsOf, Program.argumentsOf]
  generalize first.call? site = call, second.call? site = call' at calls
  cases calls with
  | none => exact .nil
  | some alike => exact alike.arguments

theorem names : first.names = second.names := by
  have alike := resembles.procedures
  rw [Program.names, Program.names]
  generalize first.procedures.toList = procedures, second.procedures.toList = procedures' at alike
  induction alike with
  | nil => rfl
  | cons related _ ih => rw [List.map_cons, List.map_cons, related.name, ih]

theorem arityOf : first.arityOf = second.arityOf :=
  funext fun id => bind_eq_of_rel (resembles.procedure? id) (·.arity)

theorem callCount : first.callCount = second.callCount := by
  funext id
  rw [Program.callCount, Program.callCount, map_eq_of_rel (resembles.procedure? id)]
  exact fun alike => by simpa using alike.calls.length_eq

theorem targetOf : first.targetOf = second.targetOf := by
  funext site
  rw [Program.targetOf, Program.targetOf, map_eq_of_rel (resembles.call? site) (·.target)]

theorem constant? {value value' : Value ProcedureId} (recast : value.Recast value') :
    first.constant? value = second.constant? value' := by
  have held (name : String) : first.globals[name]?.bind Initializer.constant? =
      second.globals[name]?.bind Initializer.constant? :=
    bind_eq_of_rel (resembles.globals name) (·.constant?)
  simp only [Program.constant?, recast.stripCasts, held]

theorem textArgument? : first.textArgument? = second.textArgument? := by
  funext site index
  have arguments := rel_getElem?_of_forall₂ (resembles.argumentsOf site) index
  rw [Program.textArgument?, Program.textArgument?, bind_eq_of_rel arguments resembles.constant?]

theorem procedureArgument? : first.procedureArgument? = second.procedureArgument? := by
  funext site index
  exact bind_eq_of_rel (rel_getElem?_of_forall₂ (resembles.argumentsOf site) index) (·.function?)

theorem addressTaken : first.addressTaken = second.addressTaken := by
  -- By membership: the globals are known to be alike name by name, not as lists of entries.
  have present (site : CallSite) : first.hasCall site = second.hasCall site := by
    rw [hasCall, hasCall, resembles.callCount]
  have passed (site : CallSite) (id : ProcedureId) :
      (∃ value ∈ first.argumentsOf site, value.stripCasts = .function id) ↔
        ∃ value ∈ second.argumentsOf site, value.stripCasts = .function id :=
    exists_mem_iff_of_forall₂ (resembles.argumentsOf site) fun recast => by rw [recast.stripCasts]
  have held (name : String) (id : ProcedureId) :
      first.globals[name]? = some (.function id) ↔ second.globals[name]? = some (.function id) := by
    have initializers := resembles.globals name
    generalize first.globals[name]? = initializer, second.globals[name]? = initializer'
      at initializers
    cases initializers with
    | none => rfl
    | some alike => simpa using alike.eq_function_iff
  ext id
  simp only [mem_addressTaken, present, passed, held]

theorem annotatedEdges : first.annotatedEdges = second.annotatedEdges := by
  rw [Program.annotatedEdges, Program.annotatedEdges, resembles.annotations]

theorem setGlobal (name : String)
    {initializer initializer' : Initializer ProcedureId}
    (alike : initializer.Resembles initializer') :
    (first.setGlobal name initializer).Resembles (second.setGlobal name initializer') where
  procedures := resembles.procedures
  byName := resembles.byName
  globals other := by
    simp only [Program.setGlobal, Std.ExtTreeMap.getElem?_insert]
    split
    · exact .some alike
    · exact resembles.globals other
  annotations := resembles.annotations

/-- Spelling makes no difference to any question about a program. -/
theorem answersAs : first.AnswersAs second where
  names := resembles.names
  find? := by
    funext name
    rw [Program.find?, Program.find?, resembles.byName]
  arityOf := resembles.arityOf
  callCount := resembles.callCount
  targetOf := resembles.targetOf
  argumentCount site := (resembles.argumentsOf site).length_eq
  textArgument? := resembles.textArgument?
  procedureArgument? := resembles.procedureArgument?
  addressTaken := resembles.addressTaken
  annotatedEdges := resembles.annotatedEdges

end Program.Resembles

/-! ## Questions that follow -/

namespace Program.AnswersAs

variable {first second : Program} (alike : first.AnswersAs second)
include alike

theorem nameOf : first.nameOf = second.nameOf := by
  funext id
  rw [nameOf_eq, nameOf_eq, alike.names]

theorem callsOf : first.callsOf = second.callsOf := by
  funext id
  rw [Program.callsOf, Program.callsOf, alike.callCount]

theorem hasCall : first.hasCall = second.hasCall := by
  funext site
  rw [Program.hasCall, Program.hasCall, alike.callCount]

theorem callSites : first.callSites = second.callSites := by
  have size : first.procedures.size = second.procedures.size := by
    simpa [Program.names] using congrArg List.length alike.names
  rw [Program.callSites, Program.callSites, procedureIds, procedureIds, size, alike.callsOf]

theorem indirectCalls : first.indirectCalls = second.indirectCalls := by
  rw [Program.indirectCalls, Program.indirectCalls, alike.callSites, alike.targetOf]

theorem describe : first.describe = second.describe := by
  funext site
  rw [Program.describe, Program.describe, alike.nameOf]

theorem population (partition : Partition) :
    partition.population first = partition.population second := by
  have privileged : partition.privilegedCallsOf first = partition.privilegedCallsOf second := by
    funext id
    rw [Partition.privilegedCallsOf, Partition.privilegedCallsOf, alike.callsOf]
  funext context
  cases context with
  | privileged => rw [Partition.population, Partition.population, privileged]
  | sandboxed id => rfl

theorem scope (partition : Partition) : partition.scope first = partition.scope second := by
  funext context
  ext site
  rw [Partition.mem_scope, Partition.mem_scope, alike.population]

end Program.AnswersAs

end SandboxRpc
