import SandboxRpc.Diagnostic.Error
import SandboxRpc.Partition
import SandboxRpc.Snapshot.Basic

/-!
# From snapshots to programs

`Snapshot.build` resolves the names of a snapshot. Listed procedures are numbered first, in order.
Callees and function pointers that are not listed are then declared as they are met: in globals by
name, then in calls, the callee of a call before its arguments. Names in annotations, sandboxes and
the privileged lists must be declared by then. The calls of a listed procedure are added to the
procedure that its name leads to, and those in sandboxed blocks are kept for the partition.

Defects are found in a fixed order: repeated procedures, annotations, sandboxes, regions, the
privileged list, its entry points.
-/

namespace SandboxRpc.Snapshot

/-! ## The program -/

/-- Declares the listed procedures; none may be listed twice. -/
def declareListed (entries : List ProcedureEntry) : Except Defect Program :=
  entries.foldlM (fun program entry =>
    match program.find? entry.name with
    | some _ => .error (.duplicateProcedure entry.name)
    | none => .ok (program.declare entry.name entry.arity).2) {}

/-- The procedure of a name, which is declared if it is new. -/
def mention (name : String) : StateM Program ProcedureId :=
  fun program => program.declare name none

/-- Adds a global variable. -/
def addGlobal (program : Program) (entry : String × Initializer String) : Program :=
  let (initializer, program) := (entry.2.traverse mention).run program
  program.setGlobal entry.1 initializer

/-- Adds a call to the body of a procedure, and gives its call site. -/
def addCall (caller : ProcedureId) (entry : CallEntry) : StateM Program CallSite := do
  -- The callee is numbered before the procedures that the arguments mention.
  let target ← entry.target.traverse mention
  let arguments ← entry.arguments.mapM (·.traverse mention)
  modifyGet fun program => (program.nextCall caller, program.addCall caller { target, arguments })

/-- A call that stands in a sandboxed block, with the name of the sandbox. -/
abbrev RegionEntry := String × CallSite

/-- Adds a call to the body of a procedure, and tells in whose block it stands, if in any. -/
def addBodyCall (caller : ProcedureId) (entry : CallEntry) :
    StateM Program (Option RegionEntry) := do
  let site ← addCall caller entry
  return entry.region.map (·, site)

def lookUp (program : Program) (name : String) : Except Defect ProcedureId :=
  match program.find? name with
  | some id => .ok id
  | none => .error (.unknownProcedure name)

/-- Adds the calls of a listed procedure, and gives those that stand in sandboxed blocks. -/
def addBody (entry : ProcedureEntry) : StateT Program (Except Defect) (List RegionEntry) :=
  fun program => do
    let caller ← lookUp program entry.name
    let (regions, program) := (entry.calls.mapM (addBodyCall caller)).run program
    return (regions.filterMap id, program)

/-- Adds the globals and the calls of a snapshot, and declares what they mention. Gives the calls
that stand in sandboxed blocks, in program order. -/
def addContents (snapshot : Snapshot) : StateT Program (Except Defect) (List RegionEntry) := do
  modify fun program => snapshot.globals.toList.foldl addGlobal program
  let regions ← snapshot.procedures.mapM addBody
  return regions.flatten

/-! ## Names that must be known -/

def lookUpAll (program : Program) (names : List String) : Except Defect (List ProcedureId) :=
  names.mapM (lookUp program)

/-- Adds an annotation; it has to stand at a call that exists. -/
def annotateCall (program : Program) (entry : AnnotationEntry) : Except Defect Program := do
  let caller ← lookUp program entry.procedure
  let site : CallSite := ⟨caller, entry.callIndex⟩
  if program.hasCall site then
    let targets ← lookUpAll program entry.targets
    return program.annotate site targets
  else throw (.unknownCallSite entry.procedure entry.callIndex)

/-- The program of a snapshot, and its calls that stand in sandboxed blocks. -/
def buildProgram (snapshot : Snapshot) : Except Defect (List RegionEntry × Program) := do
  let listed ← declareListed snapshot.procedures
  let (regions, program) ← (addContents snapshot).run listed
  let program ← snapshot.annotations.foldlM annotateCall program
  return (regions, program)

/-! ## The partition -/

/-- The procedures of a sandbox and its entry points. -/
structure SandboxMembers where
  name : String
  procedures : List ProcedureId
  entryPoints : List ProcedureId
deriving Repr

def sandboxMembers (program : Program) (entry : SandboxEntry) : Except Defect SandboxMembers := do
  let procedures ← lookUpAll program entry.procedures
  let entryPoints ← lookUpAll program entry.entryPoints
  return { name := entry.name, procedures, entryPoints }

/-- Hands a call over to the sandbox whose block it stands in. -/
def addRegion (partition : Partition) (entry : RegionEntry) : Except Defect Partition :=
  match partition.findSandbox? entry.1 with
  | some id => .ok (partition.addRegionCall id entry.2)
  | none => .error (.unknownSandbox entry.1)

/-- The procedures outside all sandboxes. -/
def outside (program : Program) (members : List SandboxMembers) : List ProcedureId :=
  program.procedureIds.filter fun id => members.all (id ∉ ·.procedures)

/-- The procedures of an optional list of names, or else a default. -/
def lookUpOr (program : Program) (default : List ProcedureId) :
    Option (List String) → Except Defect (List ProcedureId)
  | some names => lookUpAll program names
  | none => .ok default

/-- The partition of a snapshot's program, given its calls that stand in sandboxed blocks. -/
def buildPartition (snapshot : Snapshot) (program : Program) (regions : List RegionEntry) :
    Except Defect Partition := do
  let members ← snapshot.sandboxes.mapM (sandboxMembers program)
  let sandboxed := members.foldl (fun partition sandbox =>
    (partition.addSandbox program sandbox.name sandbox.procedures sandbox.entryPoints).2) {}
  let partition ← regions.foldlM addRegion sandboxed
  let privileged ← lookUpOr program (outside program members) snapshot.privileged
  let entryPoints ←
    lookUpOr program (program.find? "main").toList snapshot.privilegedEntryPoints
  return { partition with privileged, privilegedEntryPoints := entryPoints }

/-- The program and the partition that a snapshot describes. -/
def build (snapshot : Snapshot) : Except Defect (Program × Partition) := do
  let (regions, program) ← buildProgram snapshot
  let partition ← buildPartition snapshot program regions
  return (program, partition)

end SandboxRpc.Snapshot
