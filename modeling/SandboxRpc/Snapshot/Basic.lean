import SandboxRpc.Program.Basic

/-!
# Snapshots

The file form of a partitioned program. Procedures and sandboxes are referred to by name; a snapshot
lists the procedures that have bodies, and mentions others freely as callees and function pointers.
-/

namespace SandboxRpc.Snapshot

/-- A call in the body of a listed procedure. -/
structure CallEntry where
  target : CallTarget String
  arguments : List (Value String) := []
  /-- The sandbox whose block of privileged code the call stands in. -/
  region : Option String := none
deriving Repr, Inhabited

structure ProcedureEntry where
  name : String
  arity : Option Nat := none
  calls : List CallEntry := []
deriving Repr, Inhabited

/-- The possible targets of one indirect call. -/
structure AnnotationEntry where
  procedure : String
  callIndex : Nat
  targets : List String
deriving Repr, Inhabited

structure SandboxEntry where
  name : String
  entryPoints : List String := []
  procedures : List String := []
deriving Repr, Inhabited

end Snapshot

/-- A partitioned program in its file form. -/
structure Snapshot where
  procedures : List Snapshot.ProcedureEntry
  globals : Std.ExtTreeMap String (Initializer String) := ∅
  annotations : List Snapshot.AnnotationEntry := []
  sandboxes : List Snapshot.SandboxEntry := []
  /-- By default, every procedure outside all sandboxes. -/
  privileged : Option (List String) := none
  /-- By default `main`, if there is one. -/
  privilegedEntryPoints : Option (List String) := none

end SandboxRpc
