/-!
# Errors

Why an input could not be used or an output not be written, as causes; `Error.message` gives the
wording. What went wrong underneath (in the file system, in the syntax of a file) is not part of it.
-/

namespace SandboxRpc

/-- What makes a well-formed snapshot file describe no program. -/
inductive Defect where
  | unknownProcedure (name : String)
  | unknownSandbox (name : String)
  | duplicateProcedure (name : String)
  | unknownCallSite (procedure : String) (index : Nat)
deriving DecidableEq, Repr

/-- Why a file could not be used. -/
inductive Error where
  | unreadable (path : String)
  | unwritable (path : String)
  | malformedJson (path : String)
  | invalidConfiguration (path : String)
  | defect (cause : Defect)
deriving DecidableEq, Repr

def Defect.message : Defect → String
  | .unknownProcedure name => s!"unknown procedure `{name}`"
  | .unknownSandbox name => s!"unknown sandbox `{name}`"
  | .duplicateProcedure name => s!"duplicate procedure `{name}`"
  | .unknownCallSite procedure index => s!"procedure `{procedure}` has no call site #{index}"

def Error.message : Error → String
  | .unreadable path => s!"failed to read {path}"
  | .unwritable path => s!"failed to write {path}"
  | .malformedJson path => s!"malformed JSON in {path}"
  | .invalidConfiguration path => s!"invalid configuration in {path}"
  | .defect cause => cause.message

end SandboxRpc
