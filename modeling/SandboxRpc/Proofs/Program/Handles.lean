import SandboxRpc.Program.Constant
import SandboxRpc.Proofs.Partition.Contexts
import SandboxRpc.Proofs.Partition.Growth

/-!
# Handles that hold

Every query of a program is total: a handle from elsewhere has no calls and a placeholder for a
name, and nothing fails. Where all handles are good this never shows. `Program.IsClosed` and
`Partition.IsWithin` say that a program and a partition of it hold good handles only, and so the
queries give good handles only.
-/

namespace SandboxRpc

namespace Program

variable {program : Program}

/-- A text is the name of a procedure of the program, and does not just stand in for one. -/
def IsNamed (program : Program) (id : ProcedureId) (text : String) : Prop :=
  program.names[id.index]? = some text

/-- A text describes a call of the program by the name of its caller. -/
def IsDescribed (program : Program) (site : CallSite) (text : String) : Prop :=
  program.hasCall site ∧ ∃ name, program.IsNamed site.caller name ∧ text = s!"{name}#{site.index}"

theorem isNamed_nameOf {id : ProcedureId} (declared : id ∈ program.procedureIds) :
    program.IsNamed id (program.nameOf id) := by
  rw [mem_procedureIds_iff_names] at declared
  rw [IsNamed, nameOf_eq, List.getElem?_eq_getElem declared, Option.getD_some]

theorem isDescribed_describe {site : CallSite} (present : program.hasCall site) :
    program.IsDescribed site (program.describe site) :=
  ⟨present, _, isNamed_nameOf (caller_mem_procedureIds present), rfl⟩

/-! ## Programs -/

/-- A program refers to procedures and calls of its own only, and by the right names. -/
structure IsClosed (program : Program) : Prop where
  indexed : program.IsIndexed
  targets : ∀ site callee, program.targetOf site = .direct callee → callee ∈ program.procedureIds
  arguments : ∀ site, ∀ value ∈ program.argumentsOf site, ∀ id,
    value.stripCasts = .function id → id ∈ program.procedureIds
  globals : ∀ (name : String) id, program.globals[name]? = some (.function id) →
    id ∈ program.procedureIds
  annotations : ∀ site targets, program.annotations[site]? = some targets →
    program.hasCall site ∧ ∀ id ∈ targets, id ∈ program.procedureIds

theorem mem_addressTaken {id : ProcedureId} :
    id ∈ program.addressTaken ↔
      (∃ site, program.hasCall site ∧
        ∃ value ∈ program.argumentsOf site, value.stripCasts = .function id) ∨
      ∃ name : String, program.globals[name]? = some (.function id) := by
  simp only [addressTaken, Std.ExtTreeSet.mem_ofList, List.contains_iff_mem, List.mem_append,
    List.mem_flatMap, List.mem_filterMap, mem_callSites, Value.function?_eq_some_iff,
    Initializer.function?_eq_some_iff, Prod.exists, Std.ExtTreeMap.mem_toList_iff_getElem?_eq_some]
  simp

namespace IsClosed

variable (closed : program.IsClosed)
include closed

theorem addressTaken {id : ProcedureId} (taken : id ∈ program.addressTaken) :
    id ∈ program.procedureIds := by
  rcases mem_addressTaken.mp taken with ⟨site, _, value, passed, pointer⟩ | ⟨name, held⟩
  · exact closed.arguments site value passed id pointer
  · exact closed.globals name id held

theorem annotatedEdges {edge : CallSite × ProcedureId} (member : edge ∈ program.annotatedEdges) :
    program.hasCall edge.1 ∧ edge.2 ∈ program.procedureIds := by
  obtain ⟨⟨site, targets⟩, known, declared⟩ := List.mem_flatMap.mp member
  obtain ⟨id, target, rfl⟩ := List.mem_map.mp declared
  obtain ⟨present, all⟩ :=
    closed.annotations site targets (Std.ExtTreeMap.mem_toList_iff_getElem?_eq_some.mp known)
  exact ⟨present, all id target⟩

theorem procedureArgument? {site : CallSite} {index : Nat} {id : ProcedureId}
    (given : program.procedureArgument? site index = some id) : id ∈ program.procedureIds := by
  obtain ⟨value, passed, pointer⟩ := Option.bind_eq_some_iff.mp given
  exact closed.arguments site value (List.mem_of_getElem? passed) id
    (Value.function?_eq_some_iff.mp pointer)

end IsClosed

end Program

/-! ## Partitions -/

namespace Partition

variable {partition : Partition} {program : Program}

/-- The names of all contexts, in their order. -/
def contextNames (partition : Partition) : List String :=
  Context.privilegedName :: partition.sandboxNames

/-- A text is the name of a context of the partition, and does not just stand in for one. -/
def IsNamed (partition : Partition) (context : Context) (text : String) : Prop :=
  partition.contextNames[context.rank]? = some text

theorem isNamed_nameOf {context : Context} (known : context ∈ partition.contexts) :
    partition.IsNamed context (partition.nameOf context) := by
  cases context with
  | privileged => rfl
  | sandboxed id =>
    rw [sandboxed_mem_contexts] at known
    simp [IsNamed, contextNames, Context.rank, sandboxNames, nameOf_sandboxed known, known]

/-- A partition refers to procedures and calls of a program only. -/
structure IsWithin (partition : Partition) (program : Program) : Prop where
  calls : ∀ id, ∀ site ∈ partition.sandboxCalls id, program.hasCall site
  regionCalls : ∀ site ∈ partition.regionCalls, program.hasCall site
  entryPoints : ∀ context, ∀ id ∈ partition.entryPointsOf context, id ∈ program.procedureIds
  privileged : ∀ id ∈ partition.privileged, id ∈ program.procedureIds

theorem IsWithin.scope (within : partition.IsWithin program) {context : Context}
    {site : CallSite} (runs : site ∈ partition.scope program context) : program.hasCall site := by
  cases context with
  | privileged => exact (mem_scope_privileged.mp runs).1.2
  | sandboxed id => exact within.calls id site (mem_scope_sandboxed.mp runs)

end Partition

end SandboxRpc
