import SandboxRpc.CommandLine.Run

/-!
# The program

Runs the command line on the files of the operating system. The log filter is read from the
environment, the log and complaints go to standard error.
-/

namespace SandboxRpc

/-- Files of the operating system. Whatever goes wrong counts as failure, but a path that cannot be
opened counts as missing only if nothing is there. -/
instance : MonadFiles IO where
  readText? path := try some <$> IO.FS.readFile path catch _ => return none
  isPresent path := do
    try
      let _ ← IO.FS.Handle.mk path .read
      return true
    catch
      | .noFileOrDirectory .. => return false
      | _ => return true
  makeDirectories path := do
    if path.isEmpty then return true
    try
      IO.FS.createDirAll path
      return true
    catch _ => return false
  writeText path content := do
    try
      IO.FS.writeFile path content
      return true
    catch _ => return false

/-- The environment variable that holds the log filter. -/
def logFilterVariable : String := "RPCSCOPE_LOG"

/-- Prints a reply and gives its exit code. -/
def Reply.print (reply : Reply) : IO UInt32 := do
  reply.errorTexts.forM IO.eprintln
  IO.print reply.output
  if reply.exitCode = 2 then IO.eprintln "error: invalid arguments; try --help"
  return reply.exitCode.toUInt32

end SandboxRpc

def main (arguments : List String) : IO UInt32 := do
  let logFilter ← IO.getEnv SandboxRpc.logFilterVariable
  let reply ← SandboxRpc.CommandLine.run logFilter arguments
  SandboxRpc.Reply.print reply
