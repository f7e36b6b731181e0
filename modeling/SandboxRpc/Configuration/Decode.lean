import SandboxRpc.Configuration.Basic
import SandboxRpc.Diagnostic.Error
import SandboxRpc.Files.Access
import SandboxRpc.Toml.Table

/-!
# Configuration files

A configuration is a TOML document with up to three tables. A setting that is missing has its
default. Unknown settings are refused, except among the conventions, which may carry others along.

A table of settings may also be given as an array of their values in declared order, of which the
last ones may be missing and further ones do not count. A date or time in place of a table counts as
one with a single entry, which is no setting. A choice is a string, or a table whose only
key is the choice, with nothing in it.
-/

namespace SandboxRpc.Configuration

open Toml

/-- Whether a table may have entries that are not among its settings. -/
inductive Unknown where
  | ignored
  | refused
deriving DecidableEq, Repr

/-- The values of settings by name, in the order of `names`. -/
def settingsOfEntries? (names : List String) (unknown : Unknown) (entries : Entries) :
    Option (List (Option Node)) :=
  if unknown = .refused ∧ entries.any (·.1 ∉ names) then none
  else some (names.map fun name => entries.lookup name)

/-- The values of settings by position, in the order of `names`. -/
def settingsOfItems (names : List String) (items : List Node) : List (Option Node) :=
  names.zipIdx.map fun entry => items[entry.2]?

/-- The values of the settings in a table, in the order of `names`. -/
def settings? (names : List String) (unknown : Unknown) : Node → Option (List (Option Node))
  | .table _ entries => settingsOfEntries? names unknown entries
  | .inlineTable entries => settingsOfEntries? names unknown entries
  | .array items => some (settingsOfItems names items)
  | .tables elements => some (settingsOfItems names (elements.map (.table .header)))
  | .scalar .dateTime => if unknown = .refused then none else some (names.map fun _ => none)
  | .scalar _ => none

/-- A setting with a default. -/
def setting? {α : Type} (value? : Node → Option α) (default : α) : Option Node → Option α
  | none => some default
  | some node => value? node

def text? : Node → Option String
  | .scalar (.string text) => some text
  | _ => none

def boolean? : Node → Option Bool
  | .scalar (.boolean value) => some value
  | _ => none

/-- Whether there is nothing in a table or an array. -/
def isEmpty : Node → Bool
  | .table _ entries => entries.isEmpty
  | .inlineTable entries => entries.isEmpty
  | .array items => items.isEmpty
  | .tables elements => elements.isEmpty
  | .scalar _ => false

/-- The only key of a table with nothing under it. -/
def onlyKey? : Entries → Option String
  | [(key, node)] => if isEmpty node then some key else none
  | _ => none

/-- The name of a choice. -/
def choiceName? : Node → Option String
  | .scalar (.string name) => some name
  | .table _ entries => onlyKey? entries
  | .inlineTable entries => onlyKey? entries
  | _ => none

/-- One of several choices by name. -/
def choice? {α : Type} (choices : List (String × α)) (node : Node) : Option α :=
  (choiceName? node).bind fun name => choices.lookup name

def indirectFallbacks : List (String × IndirectFallback) :=
  [("none", .nothing), ("address-taken", .addressTaken)]

def reportFormats : List (String × ReportFormat) :=
  [("json", .json), ("text", .text)]

def conventions? (node : Node) : Option Conventions := do
  let default : Conventions := {}
  match ← settings? ["send_prefix", "recv_prefix", "recv_sync_prefix"] .ignored node with
  | [send, receive, receiveSync] =>
    some {
      sendPrefix := ← setting? text? default.sendPrefix send
      receivePrefix := ← setting? text? default.receivePrefix receive
      receiveSyncPrefix := ← setting? text? default.receiveSyncPrefix receiveSync }
  | _ => none

def callGraph? (node : Node) : Option CallGraphSettings := do
  let default : CallGraphSettings := {}
  match ← settings? ["dynamic_trace", "annotations", "indirect_fallback"] .refused node with
  | [trace, annotations, fallback] =>
    some {
      dynamicTrace := ← setting? (fun node => some <$> text? node) default.dynamicTrace trace
      annotations := ← setting? boolean? default.annotations annotations
      indirectFallback := ← setting? (choice? indirectFallbacks) default.indirectFallback fallback }
  | _ => none

def output? (node : Node) : Option OutputSettings := do
  let default : OutputSettings := {}
  match ← settings? ["dir", "dot_file", "report_file", "format"] .refused node with
  | [directory, dotFile, reportFile, format] =>
    some {
      directory := ← setting? text? default.directory directory
      dotFile := ← setting? text? default.dotFile dotFile
      reportFile := ← setting? text? default.reportFile reportFile
      format := ← setting? (choice? reportFormats) default.format format }
  | _ => none

/-- The configuration in a document. -/
def ofEntries? (entries : Entries) : Option Configuration := do
  match ← settingsOfEntries? ["conventions", "call_graph", "output"] .refused entries with
  | [conventions, callGraph, output] =>
    some {
      conventions := ← setting? conventions? {} conventions
      callGraph := ← setting? callGraph? {} callGraph
      output := ← setting? output? {} output }
  | _ => none

/-- The configuration in a document's text. -/
def parse? (text : String) : Option Configuration :=
  (Entries.parse? text).bind ofEntries?

/-- The configuration in a file. -/
def load {m : Type → Type} [Monad m] [MonadFiles m] (path : String) :
    m (Except Error Configuration) := do
  let some text ← MonadFiles.readText? path | return .error (.unreadable path)
  let some configuration := parse? text | return .error (.invalidConfiguration path)
  return .ok configuration

end SandboxRpc.Configuration
