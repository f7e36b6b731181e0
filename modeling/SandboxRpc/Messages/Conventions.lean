import SandboxRpc.Program.Constant

/-!
# Naming conventions

Messages are sent and received through helper functions, which are recognised by the beginning of
their names. `Conventions.classify` tells what a function of a given name does: of the beginnings
that fit, the longest decides, so `ipc_recv` and `ipc_recv_sync` can stand side by side.
-/

namespace SandboxRpc

/-- What a message helper does. -/
inductive Operation where
  /-- `send(destination, type, ...)` sends a message. -/
  | send
  /-- `receive(_, type, handler, ...)` registers a handler for messages of a type. -/
  | receive
  /-- `receiveSync(_, type, ...)` waits for such a message; its caller is the handler. -/
  | receiveSync
deriving DecidableEq, Repr

/-- How the names of the message helpers begin. -/
structure Conventions where
  sendPrefix : String := "__soaap_rpc_send_helper"
  receivePrefix : String := "__soaap_rpc_recv_helper"
  receiveSyncPrefix : String := "__soaap_rpc_recv_sync_helper"
deriving DecidableEq, Repr, Inhabited

namespace Conventions

/-- The beginnings of names and what they stand for, in their order. -/
def table (conventions : Conventions) : List (String × Operation) :=
  [(conventions.sendPrefix, .send), (conventions.receivePrefix, .receive),
    (conventions.receiveSyncPrefix, .receiveSync)]

/-- Whether a name begins in a given way. The empty beginning fits no name. -/
def Fits (start name : String) : Prop :=
  start ≠ "" ∧ start.toList <+: name.toList

instance (start name : String) : Decidable (Fits start name) :=
  inferInstanceAs (Decidable (_ ∧ _))

/-- Of two entries that fit, the one with the longer beginning, or the later if they are equal. -/
def longer (best : Option (String × Operation)) (entry : String × Operation) :
    Option (String × Operation) :=
  match best with
  -- Beginnings of one name that are equally long are the same.
  | some kept => if entry.1.length < kept.1.length then kept else entry
  | none => entry

/-- What a function of this name does, if it is a message helper. -/
def classify (conventions : Conventions) (name : String) : Option Operation :=
  let fitting := conventions.table.filter fun entry => Fits entry.1 name
  (fitting.foldl longer none).map Prod.snd

/-- What a call does, if it calls a message helper directly. -/
def operation? (conventions : Conventions) (program : Program) (site : CallSite) :
    Option Operation :=
  match program.targetOf site with
  | .direct callee => conventions.classify (program.nameOf callee)
  | .indirect => none

end Conventions

end SandboxRpc
