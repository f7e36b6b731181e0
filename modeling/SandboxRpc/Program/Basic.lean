import Std.Data.ExtTreeMap
import Std.Data.ExtTreeSet

/-!
# Programs

A program as the analysis sees it: numbered procedures, the calls each of them makes, global
variables with their initializers, and annotations that name targets of indirect calls.

- `ProcedureId` and `CallSite` are handles; they are ordered by their numbers.
- `Value`, `Initializer` and `CallTarget` take the kind of reference to a procedure as a parameter:
  names in a file, handles in a `Program`.
- `Program` grows only: `declare`, `addCall`, `setGlobal` and `annotate` never renumber anything.
- A program keeps an index of its procedures by name beside the procedures themselves. `find?` reads
  the index only, and `declare` has to keep it in step.
- The queries are total. A handle from elsewhere has no calls and the name `Program.unknownName`.
-/

namespace SandboxRpc

/-! ## Handles -/

/-- A procedure of a program, by its position in order of declaration. Numbers have no bound here:
a program stands for one with fewer than 2 ^ 32 procedures. -/
@[ext] structure ProcedureId where
  index : Nat
deriving DecidableEq, Repr, Inhabited

namespace ProcedureId

instance : Ord ProcedureId := ⟨compareOn ProcedureId.index⟩

instance : Std.TransOrd ProcedureId :=
  inferInstanceAs (Std.TransCmp (compareOn ProcedureId.index))

instance : Std.LawfulEqOrd ProcedureId where
  eq_of_compare {a b} h := by
    cases a
    cases b
    exact congrArg ProcedureId.mk (Std.LawfulEqOrd.eq_of_compare (α := Nat) h)

end ProcedureId

/-- A call instruction: the procedure it stands in and its position among the calls there. As with
procedures, there is no bound; no procedure is taken to make 2 ^ 32 calls. -/
@[ext] structure CallSite where
  caller : ProcedureId
  index : Nat
deriving DecidableEq, Repr, Inhabited

namespace CallSite

/-- Call sites are ordered by caller, then by position. -/
instance : Ord CallSite := ⟨compareLex (compareOn CallSite.caller) (compareOn CallSite.index)⟩

instance : Std.TransOrd CallSite :=
  inferInstanceAs (Std.TransCmp (compareLex (compareOn CallSite.caller) (compareOn CallSite.index)))

instance : Std.LawfulEqOrd CallSite where
  eq_of_compare {a b} h := by
    have both : compare a.caller b.caller = .eq ∧ compare a.index b.index = .eq :=
      compareLex_eq_eq.mp h
    cases a
    cases b
    exact congr (congrArg CallSite.mk (Std.LawfulEqOrd.eq_of_compare both.1))
      (Std.LawfulEqOrd.eq_of_compare both.2)

/-- The short form, which needs no program: procedure 3's first call is `p3#0`. -/
def label (site : CallSite) : String :=
  s!"p{site.caller.index}#{site.index}"

end CallSite

/-- A finite set of procedures, listed in ascending order. -/
abbrev ProcedureSet := Std.ExtTreeSet ProcedureId

/-- A finite set of call sites, listed by caller and then by position. -/
abbrev CallSiteSet := Std.ExtTreeSet CallSite

/-! ## Operands -/

/-- What a call invokes. -/
inductive CallTarget (ρ : Type) where
  /-- A callee that is known statically. -/
  | direct (callee : ρ)
  /-- A callee computed at run time: a function pointer, a table slot. -/
  | indirect
deriving DecidableEq, Repr, Inhabited

/-- An operand at a call site. -/
inductive Value (ρ : Type) where
  /-- A reference to a global variable. -/
  | global (name : String)
  /-- A function pointer. -/
  | function (procedure : ρ)
  /-- A pointer cast around another operand. -/
  | cast (inner : Value ρ)
  | int (value : Int)
  /-- Anything computed at run time. -/
  | computed
deriving DecidableEq, Repr, Inhabited

/-- The initializer of a global variable. -/
inductive Initializer (ρ : Type) where
  /-- A constant character array. -/
  | characters (text : String)
  | function (procedure : ρ)
  | other
deriving DecidableEq, Repr, Inhabited

/-- Resolves the callee of a direct call. -/
def CallTarget.traverse {m : Type → Type} [Monad m] {ρ σ : Type} (f : ρ → m σ) :
    CallTarget ρ → m (CallTarget σ)
  | .direct callee => return .direct (← f callee)
  | .indirect => return .indirect

/-- Resolves the procedure that an operand mentions, under any number of casts. -/
def Value.traverse {m : Type → Type} [Monad m] {ρ σ : Type} (f : ρ → m σ) :
    Value ρ → m (Value σ)
  | .global name => return .global name
  | .function procedure => return .function (← f procedure)
  | .cast inner => return .cast (← inner.traverse f)
  | .int value => return .int value
  | .computed => return .computed

/-- Resolves the procedure that an initializer mentions. -/
def Initializer.traverse {m : Type → Type} [Monad m] {ρ σ : Type} (f : ρ → m σ) :
    Initializer ρ → m (Initializer σ)
  | .characters text => return .characters text
  | .function procedure => return .function (← f procedure)
  | .other => return .other

/-- Peels off all pointer casts. -/
def Value.stripCasts {ρ : Type} : Value ρ → Value ρ
  | .cast inner => inner.stripCasts
  | value => value

/-- The procedure a function pointer names, seen through casts. -/
def Value.function? {ρ : Type} : Value ρ → Option ρ
  | .function procedure => some procedure
  | .cast inner => inner.function?
  | _ => none

theorem Value.function?_eq_some_iff {ρ : Type} {value : Value ρ} {procedure : ρ} :
    value.function? = some procedure ↔ value.stripCasts = .function procedure := by
  induction value with
  | cast inner ih => simpa [function?, stripCasts] using ih
  | _ => simp [function?, stripCasts]

/-- The procedure that initializes a global variable. -/
def Initializer.function? {ρ : Type} : Initializer ρ → Option ρ
  | .function procedure => some procedure
  | _ => none

theorem Initializer.function?_eq_some_iff {ρ : Type} {initializer : Initializer ρ} {procedure : ρ} :
    initializer.function? = some procedure ↔ initializer = .function procedure := by
  cases initializer with
  | function _ => simp [function?]
  | characters _ => simp [function?]
  | other => simp [function?]

/-! ## Programs -/

/-- One call of a procedure's body. -/
structure Call where
  target : CallTarget ProcedureId
  arguments : List (Value ProcedureId)
deriving Repr, Inhabited

/-- A procedure. One that is only mentioned has no calls and no known arity. -/
structure Procedure where
  name : String
  /-- The number of parameters, where it is known. -/
  arity : Option Nat
  calls : Array Call := #[]
deriving Repr, Inhabited

/-- The names of procedures with their numbers. -/
def Procedure.numbered (procedures : Array Procedure) : List (String × ProcedureId) :=
  procedures.toList.zipIdx.map fun entry => (entry.1.name, ⟨entry.2⟩)

/-- Procedures by number and by name, globals by name, and the annotated targets of call sites. -/
structure Program where
  procedures : Array Procedure := #[]
  /-- A program that is written down as a whole has the index of its procedures. -/
  byName : Std.ExtTreeMap String ProcedureId := .ofList (Procedure.numbered procedures)
  globals : Std.ExtTreeMap String (Initializer ProcedureId) := ∅
  annotations : Std.ExtTreeMap CallSite (List ProcedureId) := ∅

namespace Program

instance : Inhabited Program := ⟨{}⟩

/-- Stands in for the name of a procedure or sandbox that does not exist. -/
def unknownName : String := "<unknown>"

/-! ### Queries -/

/-- All procedures, in order of declaration. -/
def procedureIds (program : Program) : List ProcedureId :=
  (List.range program.procedures.size).map ProcedureId.mk

def procedure? (program : Program) (id : ProcedureId) : Option Procedure :=
  program.procedures[id.index]?

def nameOf (program : Program) (id : ProcedureId) : String :=
  ((program.procedure? id).map Procedure.name).getD unknownName

/-- The procedure of that name, according to the index. -/
def find? (program : Program) (name : String) : Option ProcedureId :=
  program.byName[name]?

def arityOf (program : Program) (id : ProcedureId) : Option Nat :=
  (program.procedure? id).bind Procedure.arity

def callCount (program : Program) (id : ProcedureId) : Nat :=
  ((program.procedure? id).map (·.calls.size)).getD 0

/-- The call sites of one procedure, in order. -/
def callsOf (program : Program) (id : ProcedureId) : List CallSite :=
  (List.range (program.callCount id)).map (CallSite.mk id)

/-- The call sites of all procedures, in order. -/
def callSites (program : Program) : List CallSite :=
  program.procedureIds.flatMap program.callsOf

def call? (program : Program) (site : CallSite) : Option Call :=
  (program.procedure? site.caller).bind (·.calls[site.index]?)

/-- Whether the program has this call site. -/
def hasCall (program : Program) (site : CallSite) : Bool :=
  site.index < program.callCount site.caller

@[simp] theorem mem_procedureIds {program : Program} {id : ProcedureId} :
    id ∈ program.procedureIds ↔ id.index < program.procedures.size := by
  simp [procedureIds, ProcedureId.ext_iff]

@[simp] theorem mem_callsOf {program : Program} {id : ProcedureId} {site : CallSite} :
    site ∈ program.callsOf id ↔ site.caller = id ∧ program.hasCall site := by
  simp only [callsOf, hasCall, List.mem_map, List.mem_range, CallSite.ext_iff, decide_eq_true_eq]
  grind

/-- A call site exists only in a declared procedure, so none is left out. -/
@[simp] theorem mem_callSites {program : Program} {site : CallSite} :
    site ∈ program.callSites ↔ program.hasCall site := by
  simp only [callSites, List.mem_flatMap, mem_procedureIds, mem_callsOf]
  constructor
  · rintro ⟨_, _, _, present⟩
    exact present
  · intro present
    refine ⟨site.caller, ?_, rfl, present⟩
    by_cases declared : site.caller.index < program.procedures.size
    · exact declared
    · simp [hasCall, callCount, procedure?, declared] at present

theorem hasCall_eq_isSome_call? {program : Program} {site : CallSite} :
    program.hasCall site = (program.call? site).isSome := by
  rw [hasCall, callCount, call?]
  cases program.procedure? site.caller with
  | none => simp
  | some procedure =>
    by_cases bound : site.index < procedure.calls.size
    · simp [bound]
    · simp [bound]

/-- What a call site invokes. A site that does not exist counts as indirect. -/
def targetOf (program : Program) (site : CallSite) : CallTarget ProcedureId :=
  ((program.call? site).map Call.target).getD .indirect

def argumentsOf (program : Program) (site : CallSite) : List (Value ProcedureId) :=
  ((program.call? site).map Call.arguments).getD []

/-- The indirect call sites, in order. -/
def indirectCalls (program : Program) : List CallSite :=
  program.callSites.filter (program.targetOf · = .indirect)

/-- The readable form of a call site: the first call of `main` is `main#0`. -/
def describe (program : Program) (site : CallSite) : String :=
  s!"{program.nameOf site.caller}#{site.index}"

/-- The procedures whose address escapes: those that an argument or a global variable holds. -/
def addressTaken (program : Program) : ProcedureSet :=
  let fromArguments := program.callSites.flatMap fun site =>
    (program.argumentsOf site).filterMap Value.function?
  let fromGlobals := program.globals.toList.filterMap fun entry => entry.2.function?
  .ofList (fromArguments ++ fromGlobals)

/-- The annotated targets, one pair per target, by call site. -/
def annotatedEdges (program : Program) : List (CallSite × ProcedureId) :=
  program.annotations.toList.flatMap fun entry => entry.2.map (entry.1, ·)

/-! ### Growth -/

/-- Declares a procedure. If the name is taken, that procedure is meant and nothing changes. -/
def declare (program : Program) (name : String) (arity : Option Nat) : ProcedureId × Program :=
  match program.find? name with
  | some id => (id, program)
  | none =>
    let id : ProcedureId := ⟨program.procedures.size⟩
    (id, { program with
      procedures := program.procedures.push { name, arity }
      byName := program.byName.insert name id })

/-- Appends a call to a procedure's body. Nothing changes if there is no such procedure. -/
def addCall (program : Program) (caller : ProcedureId) (call : Call) : Program :=
  { program with
    procedures := program.procedures.modify caller.index fun procedure =>
      { procedure with calls := procedure.calls.push call } }

/-- The call site of the next call that is appended to a procedure's body. -/
def nextCall (program : Program) (caller : ProcedureId) : CallSite :=
  ⟨caller, program.callCount caller⟩

/-- Appends a call to a procedure's body, and gives its call site. There has to be such a
procedure. -/
def addCall? (program : Program) (caller : ProcedureId) (call : Call) :
    Option (CallSite × Program) :=
  (program.procedure? caller).map fun _ => (program.nextCall caller, program.addCall caller call)

/-- Gives a global variable its initializer; the last one stands. -/
def setGlobal (program : Program) (name : String) (initializer : Initializer ProcedureId) :
    Program :=
  { program with globals := program.globals.insert name initializer }

/-- Adds targets to those already annotated for a call site. -/
def annotate (program : Program) (site : CallSite) (targets : List ProcedureId) : Program :=
  { program with
    annotations := program.annotations.alter site fun known => some (known.getD [] ++ targets) }

end Program

end SandboxRpc
