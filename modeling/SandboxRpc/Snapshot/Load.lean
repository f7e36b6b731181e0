import SandboxRpc.Files.Access
import SandboxRpc.Snapshot.Build
import SandboxRpc.Snapshot.Decode

/-!
# Loading snapshots

From a snapshot file to a partitioned program, with the errors told apart: the file cannot be read,
it is no snapshot, or the snapshot has a defect.
-/

namespace SandboxRpc.Snapshot

/-- The partitioned program in a snapshot's text; `path` says where the text comes from. -/
def loadText (path text : String) : Except Error (Program × Partition) :=
  match parse? text with
  | none => .error (.malformedJson path)
  | some snapshot => snapshot.build.mapError .defect

/-- The partitioned program in the snapshot file at a path. -/
def load {m : Type → Type} [Monad m] [MonadFiles m] (path : String) :
    m (Except Error (Program × Partition)) := do
  let some text ← MonadFiles.readText? path | return .error (.unreadable path)
  return loadText path text

end SandboxRpc.Snapshot
