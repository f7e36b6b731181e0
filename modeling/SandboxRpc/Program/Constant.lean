import SandboxRpc.Program.Basic

/-!
# Constant operands

Some operands are known at compile time: a function pointer, or a global variable whose initializer
is a string or a function. `Program.constant?` reads one off through pointer casts;
`textArgument?` and `procedureArgument?` look at an argument of a call.

A procedure argument must be a function pointer itself: a global variable that holds one does not
count, because it may be reassigned before the call.
-/

namespace SandboxRpc

/-- What an operand is known to be at compile time. -/
inductive Constant where
  | text (value : String)
  | procedure (id : ProcedureId)
deriving DecidableEq, Repr

/-- The string that a constant character array holds: it ends before the first NUL. -/
def textUpToNul (characters : String) : String :=
  String.ofList (characters.toList.takeWhile (· ≠ '\x00'))

/-- What a global variable with this initializer is known to hold. -/
def Initializer.constant? : Initializer ProcedureId → Option Constant
  | .characters text => some (.text (textUpToNul text))
  | .function id => some (.procedure id)
  | .other => none

namespace Program

/-- The constant that an operand denotes, if it denotes one. -/
def constant? (program : Program) (value : Value ProcedureId) : Option Constant :=
  match value.stripCasts with
  | .function id => some (.procedure id)
  | .global name => program.globals[name]?.bind Initializer.constant?
  | _ => none

/-- The constant string passed as an argument. -/
def textArgument? (program : Program) (site : CallSite) (index : Nat) : Option String :=
  match (program.argumentsOf site)[index]?.bind program.constant? with
  | some (.text value) => some value
  | _ => none

/-- The function pointer passed as an argument. -/
def procedureArgument? (program : Program) (site : CallSite) (index : Nat) :
    Option ProcedureId :=
  (program.argumentsOf site)[index]?.bind Value.function?

end Program

end SandboxRpc
