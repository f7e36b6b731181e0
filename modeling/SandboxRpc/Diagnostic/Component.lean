/-!
# Components

The parts of the program that have something to report, as they are known to log filters.
-/

namespace SandboxRpc

/-- A part of the program. -/
inductive Component where
  | analysis
  | callGraph
  | messages
  | snapshot
  | trace
deriving DecidableEq, Repr

/-- The path of a component, from the whole to the part. -/
def Component.path : Component → String
  | analysis => "rpcscope::application"
  | callGraph => "rpcscope::domain::callgraph"
  | messages => "rpcscope::domain::rpc"
  | snapshot => "rpcscope::infrastructure::snapshot_loader"
  | trace => "rpcscope::infrastructure::trace_loader"

end SandboxRpc
