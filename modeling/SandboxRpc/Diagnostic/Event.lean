import SandboxRpc.Diagnostic.Note
import SandboxRpc.Log.Record

/-!
# Events

Whatever the program reports while it works: warnings, and notes of what it does. `Event.record` puts
an event into words for a log.
-/

namespace SandboxRpc

inductive Event where
  | warning (given : Warning)
  | note (taken : Note)
deriving DecidableEq, Repr

namespace Event

def warning? : Event → Option Warning
  | warning given => some given
  | note _ => none

/-- An event in words, given the program and the partition that it is about. -/
def record (program : Program) (partition : Partition) : Event → LogRecord
  | warning given =>
    { level := .warn
      part := given.component.path
      message := given.message
      details := given.fields program partition }
  | note taken =>
    { level := taken.level
      part := taken.component.path
      message := taken.message
      details := taken.fields program partition }

end Event

end SandboxRpc
