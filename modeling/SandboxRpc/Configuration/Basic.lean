import SandboxRpc.Files.Path
import SandboxRpc.Messages.Conventions

/-!
# Configurations

How an analysis is to be carried out. Every setting has a default.
-/

namespace SandboxRpc

/-- What to do about indirect calls without known targets. -/
inductive IndirectFallback where
  | nothing
  /-- Assume the procedures whose address is taken. -/
  | addressTaken
deriving DecidableEq, Repr, Inhabited

inductive ReportFormat where
  | json
  | text
deriving DecidableEq, Repr, Inhabited

structure CallGraphSettings where
  /-- A file of observed calls. -/
  dynamicTrace : Option String := none
  /-- Whether annotations on indirect calls count. -/
  annotations : Bool := true
  indirectFallback : IndirectFallback := .nothing
deriving DecidableEq, Repr, Inhabited

structure OutputSettings where
  directory : String := "."
  dotFile : String := "rpcgraph.dot"
  reportFile : String := "rpc_report.json"
  format : ReportFormat := .json
deriving DecidableEq, Repr, Inhabited

structure Configuration where
  conventions : Conventions := {}
  callGraph : CallGraphSettings := {}
  output : OutputSettings := {}
deriving DecidableEq, Repr, Inhabited

namespace OutputSettings

def dotPath (output : OutputSettings) : String :=
  Path.join output.directory output.dotFile

def reportPath (output : OutputSettings) : String :=
  Path.join output.directory output.reportFile

end OutputSettings

/-- Whether all settings have their defaults. The directory may be spelled differently. -/
def Configuration.isDefault (configuration : Configuration) : Bool :=
  let default : Configuration := {}
  let spelled := { configuration with output.directory := default.output.directory }
  Path.same configuration.output.directory default.output.directory ∧ spelled = default

end SandboxRpc
