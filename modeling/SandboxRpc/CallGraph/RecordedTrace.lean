import SandboxRpc.CallGraph.Resolver
import SandboxRpc.Files.Access
import SandboxRpc.Json.Decode
import SandboxRpc.Json.Reader

/-!
# Recorded traces

A dynamic trace is a JSON list of calls that were observed in runs of a program, by name. Entries
that do not fit the program are passed over with a warning. A trace file that is missing counts as
empty; one that cannot be read or understood is passed over as a whole, also with a warning.
-/

namespace SandboxRpc

/-- An observed call. -/
structure TraceEntry where
  caller : String
  callIndex : Nat
  callee : String
deriving DecidableEq, Repr

namespace TraceEntry

open Json

def ofJson? (json : Json) : Option TraceEntry := do
  match ← json.fields? ["caller", "call_index", "callee"] .ignored with
  | [caller, callIndex, callee] =>
    some {
      caller := ← required? asText? caller
      callIndex := ← required? (asNatBelow? 0x100000000) callIndex
      callee := ← required? asText? callee }
  | _ => none

/-- The entries of a trace in its file form. -/
def parseAll? (text : String) : Option (List TraceEntry) :=
  (Json.parse? text).bind (asList? ofJson?)

/-- The edge that an entry shows, if the program has the procedures and the call. -/
def edge? (program : Program) (entry : TraceEntry) : Logged (Option CallEdge) :=
  match program.find? entry.caller, program.find? entry.callee with
  | some caller, some callee => do
    let site : CallSite := ⟨caller, entry.callIndex⟩
    if program.hasCall site then return some (site, callee)
    Logged.warn (.traceCallUnknown entry.caller entry.callIndex)
    return none
  | _, _ => do
    Logged.warn (.traceProcedureUnknown entry.caller entry.callee)
    return none

/-- The edges that a trace shows, in its order. -/
def edges (program : Program) (entries : List TraceEntry) : Logged (List CallEdge) := do
  let found ← entries.mapM (edge? program)
  return found.filterMap id

end TraceEntry

/-- Where observed edges come from. -/
inductive TraceSource where
  | file (path : String)
  /-- Edges that are known without a file. -/
  | edges (known : List CallEdge)
deriving Repr

namespace TraceSource

variable {m : Type → Type} [Monad m] [MonadFiles m]

/-- The edges that the trace file at a path shows. -/
def loadFile (program : Program) (path : String) : m (Except Error (Logged (List CallEdge))) := do
  unless ← MonadFiles.isPresent path do return .ok do
    Logged.note (.traceAbsent path)
    return []
  let some text ← MonadFiles.readText? path | return .error (.unreadable path)
  let some entries := TraceEntry.parseAll? text | return .error (.malformedJson path)
  return .ok (TraceEntry.edges program entries)

/-- What a source shows about a program. -/
def observe (program : Program) : TraceSource → m Observation
  | file path => do
    match ← loadFile program path with
    | .ok found => return .edges path found
    | .error cause => return .failed path cause
  | edges known => return .edges "known edges" (pure known)

end TraceSource

end SandboxRpc
