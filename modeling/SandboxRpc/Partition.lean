import SandboxRpc.Program.Basic

/-!
# Partitions into sandboxes

A program is cut into sandboxes and a privileged rest. Code runs in a *context*: the privileged one
or a sandbox.

- A sandbox owns call sites: those of the procedures it was made from, and single calls that stand
  in a sandboxed block of privileged code (*region calls*).
- The privileged context has the calls of the privileged procedures that are not region calls.
- `Partition.population` lists the calls of a context as stored, repetitions included;
  `Partition.scope` is the set of those that execute there. `mem_scope` says that they agree.
-/

namespace SandboxRpc

/-- A sandbox, by its position in order of declaration. Numbers have no bound here either: a
partition stands for one with fewer than 2 ^ 32 sandboxes. -/
structure SandboxId where
  index : Nat
deriving DecidableEq, Repr, Inhabited

/-- Where code executes. -/
inductive Context where
  | privileged
  | sandboxed (id : SandboxId)
deriving DecidableEq, Repr, Inhabited

namespace Context

/-- The privileged context comes first, then the sandboxes by number. -/
def rank : Context → Nat
  | privileged => 0
  | sandboxed id => id.index + 1

theorem rank_injective {a b : Context} (h : a.rank = b.rank) : a = b := by
  match a, b with
  | privileged, privileged => rfl
  | privileged, sandboxed _ => simp [rank] at h
  | sandboxed _, privileged => simp [rank] at h
  | sandboxed ⟨_⟩, sandboxed ⟨_⟩ => simp_all [rank]

instance : Ord Context := ⟨compareOn Context.rank⟩

instance : Std.TransOrd Context := inferInstanceAs (Std.TransCmp (compareOn Context.rank))

instance : Std.LawfulEqOrd Context where
  eq_of_compare {_ _} h := rank_injective (Std.LawfulEqOrd.eq_of_compare (α := Nat) h)

/-- The name of the privileged context, also as the destination of a message. -/
def privilegedName : String := "<privileged>"

end Context

/-- A sandbox: its name, where control may enter it, and the calls it executes. -/
structure Sandbox where
  name : String
  entryPoints : List ProcedureId
  calls : List CallSite
deriving Repr, Inhabited

/-- The sandboxes and the privileged part of a program. -/
structure Partition where
  sandboxes : Array Sandbox := #[]
  privileged : List ProcedureId := []
  privilegedEntryPoints : List ProcedureId := []
  /-- The calls that stand in a sandboxed block of privileged code. -/
  regionCalls : CallSiteSet := ∅

namespace Partition

instance : Inhabited Partition := ⟨{}⟩

/-! ## Queries -/

/-- All sandboxes, in order of declaration. -/
def sandboxIds (partition : Partition) : List SandboxId :=
  (List.range partition.sandboxes.size).map SandboxId.mk

/-- All contexts, in their order. -/
def contexts (partition : Partition) : List Context :=
  .privileged :: partition.sandboxIds.map .sandboxed

def sandbox? (partition : Partition) (id : SandboxId) : Option Sandbox :=
  partition.sandboxes[id.index]?

def sandboxCalls (partition : Partition) (id : SandboxId) : List CallSite :=
  ((partition.sandbox? id).map Sandbox.calls).getD []

/-- The first sandbox of that name. -/
def findSandbox? (partition : Partition) (name : String) : Option SandboxId :=
  (partition.sandboxes.findIdx? (·.name == name)).map SandboxId.mk

def nameOf (partition : Partition) : Context → String
  | .privileged => Context.privilegedName
  | .sandboxed id => ((partition.sandbox? id).map Sandbox.name).getD Program.unknownName

/-- The procedures where execution of a context starts, as stored. -/
def entryPointsOf (partition : Partition) : Context → List ProcedureId
  | .privileged => partition.privilegedEntryPoints
  | .sandboxed id => ((partition.sandbox? id).map Sandbox.entryPoints).getD []

/-- The calls of a procedure that run privileged: those outside all sandboxed blocks. -/
def privilegedCallsOf (partition : Partition) (program : Program) (id : ProcedureId) :
    List CallSite :=
  (program.callsOf id).filter fun site => !partition.regionCalls.contains site

/-- The calls of a context in stored order, as often as they are stored. -/
def population (partition : Partition) (program : Program) : Context → List CallSite
  | .privileged => partition.privileged.flatMap (partition.privilegedCallsOf program)
  | .sandboxed id => partition.sandboxCalls id

/-- The set of calls that execute in a context. -/
def scope (partition : Partition) (program : Program) : Context → CallSiteSet
  | .privileged => .ofList (partition.privileged.flatMap (partition.privilegedCallsOf program))
  | .sandboxed id => .ofList (partition.sandboxCalls id)

/-- A call executes in a context if it is stored there, however often. -/
@[simp] theorem mem_scope {partition : Partition} {program : Program} {context : Context}
    {site : CallSite} :
    site ∈ partition.scope program context ↔ site ∈ partition.population program context := by
  cases context with
  | privileged => simp [scope, population]
  | sandboxed id => simp [scope, population]

/-! ## Growth -/

/-- Adds a sandbox that owns every call of `procedures`. -/
def addSandbox (partition : Partition) (program : Program) (name : String)
    (procedures entryPoints : List ProcedureId) : SandboxId × Partition :=
  let sandbox := { name, entryPoints, calls := procedures.flatMap program.callsOf }
  (⟨partition.sandboxes.size⟩,
    { partition with sandboxes := partition.sandboxes.push sandbox })

/-- Hands a call that stands in a sandboxed block of privileged code over to its sandbox. -/
def addRegionCall (partition : Partition) (id : SandboxId) (site : CallSite) : Partition :=
  if id.index < partition.sandboxes.size then
    { partition with
      sandboxes := partition.sandboxes.modify id.index fun sandbox =>
        if site ∈ sandbox.calls then sandbox
        else { sandbox with calls := sandbox.calls ++ [site] }
      regionCalls := partition.regionCalls.insert site }
  else partition

end Partition

end SandboxRpc
