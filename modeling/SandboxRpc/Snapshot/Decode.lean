import SandboxRpc.Json.Decode
import SandboxRpc.Json.Reader
import SandboxRpc.Snapshot.Basic

/-!
# Snapshot files

Reads a snapshot from its JSON text. At the top level every member has to be a field of a snapshot;
further down, members that mean nothing are skipped.

At most `nestingLimit` arrays and objects may stand in one another where data is read. Only operands
can be nested that deeply, and `argumentNesting` is what that leaves for one.
-/

namespace SandboxRpc.Snapshot

open Json

/-- How many arrays and objects may stand in one another. -/
def nestingLimit : Nat := 127

/-- How many of them may make up an argument: around it stand the snapshot, the list of procedures,
a procedure, its list of calls, a call and its list of arguments. -/
def argumentNesting : Nat := nestingLimit - 6

/-- An operand made up of at most `levels` objects in one another. -/
def value? (levels : Nat) (json : Json) : Option (Value String) := do
  match levels, ← json.variant? with
  | _, ("opaque", none) => some .computed
  | _ + 1, ("opaque", some .null) => some .computed
  | _ + 1, ("global", some data) => .global <$> data.asText?
  | _ + 1, ("function", some data) => .function <$> data.asText?
  | _ + 1, ("int", some data) => .int <$> data.asInteger? (-0x8000000000000000) 0x7fffffffffffffff
  | levels + 1, ("cast", some data) => .cast <$> value? levels data
  | _, _ => none

def target? (json : Json) : Option (CallTarget String) := do
  match ← json.variant? with
  | ("direct", some data) => .direct <$> data.asText?
  | ("indirect", data) => (fun _ => .indirect) <$> noData? data
  | _ => none

def initializer? (json : Json) : Option (Initializer String) := do
  match ← json.variant? with
  | ("cstring", some data) => .characters <$> data.asText?
  | ("function", some data) => .function <$> data.asText?
  | ("other", data) => (fun _ => .other) <$> noData? data
  | _ => none

/-- A list of names. -/
def names? (json : Json) : Option (List String) :=
  json.asList? asText?

def callEntry? (json : Json) : Option CallEntry := do
  match ← json.fields? ["target", "args", "region"] .ignored with
  | [target, arguments, region] =>
    some {
      target := ← required? target? target
      arguments := ← defaulted? (asList? (value? argumentNesting)) [] arguments
      region := ← defaulted? (asNullable? asText?) none region }
  | _ => none

def procedureEntry? (json : Json) : Option ProcedureEntry := do
  match ← json.fields? ["name", "arity", "calls"] .ignored with
  | [name, arity, calls] =>
    some {
      name := ← required? asText? name
      arity := ← defaulted? (asNullable? (asNatBelow? 0x10000000000000000)) none arity
      calls := ← defaulted? (asList? callEntry?) [] calls }
  | _ => none

def annotationEntry? (json : Json) : Option AnnotationEntry := do
  match ← json.fields? ["procedure", "call_index", "targets"] .ignored with
  | [procedure, callIndex, targets] =>
    some {
      procedure := ← required? asText? procedure
      callIndex := ← required? (asNatBelow? 0x100000000) callIndex
      targets := ← required? names? targets }
  | _ => none

def sandboxEntry? (json : Json) : Option SandboxEntry := do
  match ← json.fields? ["name", "entry_points", "procedures"] .ignored with
  | [name, entryPoints, procedures] =>
    some {
      name := ← required? asText? name
      entryPoints := ← defaulted? names? [] entryPoints
      procedures := ← defaulted? names? [] procedures }
  | _ => none

/-- The initializers of global variables by name. Of a repeated name the last one counts. -/
def globals? (json : Json) : Option (Std.ExtTreeMap String (Initializer String)) := do
  let members ← json.members?
  let entries ← members.mapM fun entry => (initializer? entry.2).map (entry.1, ·)
  some (.ofList entries)

/-- The fields of a snapshot. -/
def fieldNames : List String :=
  ["procedures", "globals", "annotations", "sandboxes", "privileged", "privileged_entry_points"]

/-- The snapshot that a JSON value describes. -/
def ofJson? (json : Json) : Option Snapshot := do
  match ← json.fields? fieldNames .refused with
  | [procedures, globals, annotations, sandboxes, privileged, entryPoints] =>
    some {
      procedures := ← required? (asList? procedureEntry?) procedures
      globals := ← defaulted? globals? ∅ globals
      annotations := ← defaulted? (asList? annotationEntry?) [] annotations
      sandboxes := ← defaulted? (asList? sandboxEntry?) [] sandboxes
      privileged := ← defaulted? (asNullable? names?) none privileged
      privilegedEntryPoints := ← defaulted? (asNullable? names?) none entryPoints }
  | _ => none

/-- The snapshot that a JSON text describes. -/
def parse? (text : String) : Option Snapshot :=
  (Json.parse? text).bind ofJson?

end SandboxRpc.Snapshot
