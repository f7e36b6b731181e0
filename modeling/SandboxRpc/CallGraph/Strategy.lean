import SandboxRpc.Program.Basic

/-!
# Strategies for indirect calls

A strategy has the last word on the targets of an indirect call. It sees the program, the call and
the targets found so far, and answers with the targets to go by.
-/

namespace SandboxRpc

/-- Decides the targets of an indirect call from those found so far. -/
abbrev Strategy := Program → CallSite → ProcedureSet → ProcedureSet

namespace Strategy

/-- Whether a procedure can be called with this many arguments. One of unknown arity can. -/
def admits (program : Program) (argumentCount : Nat) (id : ProcedureId) : Bool :=
  (program.arityOf id).all (· ≤ argumentCount)

/-- Falls back to the procedures whose address is taken when no target was found. Those that need
more arguments than the call passes are left out. -/
def addressTaken : Strategy := fun program site found =>
  if found.isEmpty then
    program.addressTaken.filter (admits program (program.argumentsOf site).length)
  else found

/-- Keeps only the first target found. -/
def firstFound : Strategy := fun _ _ found => .ofList (found.toList.take 1)

/-- Answers with the same targets for every call. -/
def always (targets : ProcedureSet) : Strategy := fun _ _ _ => targets

end Strategy

end SandboxRpc
