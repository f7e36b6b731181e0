import SandboxRpc.Analysis
import SandboxRpc.CommandLine.Arguments
import SandboxRpc.Log.Filter
import SandboxRpc.Snapshot.Load

/-!
# The command line

`CommandLine.run` carries out what the arguments ask for: it prints help or the version, lists
procedures or indirect calls, or runs an analysis. The arguments are checked first, then the log
filter, the configuration and the snapshot.

The log and what went wrong share standard error. `Reply.errorLine?` is the line there that tells what
went wrong to whoever looks at the lines alone.
-/

namespace SandboxRpc

/-- The answer of the program to its arguments. -/
structure Reply where
  exitCode : Nat := 0
  output : String := ""
  /-- What went wrong, in words. -/
  complaint : Option String := none
  /-- What is logged before that, in words. -/
  log : List String := []
deriving Repr

namespace Reply

/-- How a complaint starts. -/
def errorMark : String := "Error:"

/-- The texts on standard error. A line feed follows each of them. -/
def errorTexts (reply : Reply) : List String :=
  reply.log ++ reply.complaint.toList.map fun complaint => s!"{errorMark} {complaint}"

/-- The lines of a text that a line feed follows. A carriage return in front of a line feed belongs
to the line end. -/
def linesOf (text : String) : List (List Char) :=
  (pieces '\n' text.toList).map fun line =>
    if line.getLast? = some '\r' then line.dropLast else line

/-- The line on standard error that says what went wrong, if anything did: the first that starts as a
complaint does, which may be a line of the log. -/
def errorLine? (reply : Reply) : Option String :=
  if reply.complaint.isSome then
    ((reply.errorTexts.flatMap linesOf).find? errorMark.toList.isPrefixOf).map String.ofList
  else none

end Reply

namespace CommandLine

/-- The name of the program. -/
def programName : String := "rpcscope"

def versionText : String := unlines [s!"{programName} 0.1.0"]

def helpText : String :=
  unlines [
    "rpcscope - Static analysis of inter-sandbox RPC: call-graph resolution, send/receive " ++
      "matching, and Graphviz export.",
    "",
    "Usage: rpcscope [OPTIONS] --program <PROGRAM>",
    "",
    "Options:",
    "  -p, --program <PROGRAM>        Program snapshot (JSON) to analyze",
    "  -c, --config <CONFIG>          Analysis configuration (TOML)",
    "  -o, --output-dir <OUTPUT_DIR>  Directory for the report and the DOT graph",
    "  -f, --format <FORMAT>          Report format [possible values: json, text]",
    "      --trace <TRACE>            Dynamic call trace (JSON), overrides the configured one",
    "      --list-fp-calls            Print every function-pointer call site with its resolved " ++
      "targets",
    "      --list-funcs               Print every function in the program",
    "  -h, --help                     Print help",
    "  -V, --version                  Print version"]

/-- Ends with a complaint. -/
def fail (complaint : String) : Reply where
  exitCode := 1
  complaint := some complaint

/-- The exit code when the program cannot go on. -/
def abortCode : Nat := 101

/-- Ends because of a log filter. One that cannot even be cut into pieces aborts the program. -/
def refuseLogFilter (cause : LogFilterError) : Reply :=
  if cause = .cut then { exitCode := abortCode, log := [cause.message] } else fail cause.message

/-! ## Configuration -/

/-- The name of a text report unless a configuration says otherwise. -/
def textReportFile : String := "rpc_report.txt"

/-- The output settings with what the arguments ask for in place of what is configured. -/
def Arguments.output (arguments : Arguments) (output : OutputSettings) : OutputSettings where
  directory := arguments.outputDirectory.getD output.directory
  dotFile := output.dotFile
  reportFile :=
    if arguments.format = some .text ∧ arguments.configuration = none then textReportFile
    else output.reportFile
  format := arguments.format.getD output.format

/-- A configuration with what the arguments ask for in place of what is configured. -/
def Arguments.override (arguments : Arguments) (configuration : Configuration) :
    Configuration where
  conventions := configuration.conventions
  callGraph :=
    { configuration.callGraph with
      dynamicTrace := arguments.trace.or configuration.callGraph.dynamicTrace }
  output := Arguments.output arguments configuration.output

/-! ## Listings -/

/-- The names of all procedures, in order. -/
def procedureLines (program : Program) : List String :=
  program.procedureIds.map program.nameOf

/-- An indirect call with its targets. -/
def indirectCallLine (program : Program) (entry : CallSite × List ProcedureId) : String :=
  s!"{program.describe entry.1} -> [" ++
    ", ".intercalate (entry.2.map program.nameOf) ++ "]"

/-- Lists the procedures, with a note of each. -/
def listProcedures (program : Program) : Logged (List String) where
  value := procedureLines program
  events := program.procedureIds.map fun id => .note (.procedureListed id)

/-- Lists the indirect calls with their targets, in order and with a note of each. -/
def listIndirectCalls (configuration : Configuration) (subject : Subject) :
    Logged (List String) := do
  let resolver := (← (Resolver.populate subject).run configuration.resolver).2
  (resolver.indirectTargets subject.program).mapM fun entry => do
    Logged.note (.callListed entry.1 entry.2)
    return indirectCallLine subject.program entry

/-- The text of several lines, each of them ended. -/
def endLines (lines : List String) : String :=
  String.join (lines.map (· ++ "\n"))

/-! ## Running -/

/-- What is logged of events, in words. -/
def logTexts (filter : LogFilter) (program : Program) (partition : Partition)
    (events : List Event) : List String :=
  ((events.map (Event.record program partition)).filter filter.admits).map LogRecord.written

variable {m : Type → Type} [Monad m] [MonadFiles m]

/-- The configuration that the arguments name, or the default. -/
def loadConfiguration (arguments : Arguments) : m (Except Error Configuration) :=
  match arguments.configuration with
  | some path => Configuration.load path
  | none => return .ok {}

/-- Lists what the arguments ask for. -/
def list (arguments : Arguments) (configuration : Configuration) (program : Program)
    (partition : Partition) : m (Logged Reply) := do
  let procedures := if arguments.listsProcedures then listProcedures program else pure []
  if arguments.listsIndirectCalls then
    let observed ← Analysis.observe program configuration.traceSource?
    return do
      let lines ← procedures
      let calls ← listIndirectCalls configuration { program, partition, observed }
      return { output := endLines (lines ++ calls) }
  else return do
    return { output := endLines (← procedures) }

/-- What is printed after an analysis. -/
def outcomeReply : Except AnalysisFailure AnalysisOutcome → Reply
  | .ok outcome =>
    { output := unlines [
        s!"Analysis completed! {outcome.graph.size} messages; report written to " ++
          s!"{outcome.reportPath}, graph written to {outcome.dotPath}"] }
  | .error failure => fail failure.message

/-- Carries out a listing or an analysis. -/
def analyse (filter : LogFilter) (arguments : Arguments) : m Reply := do
  match ← loadConfiguration arguments with
  | .error cause => return fail cause.message
  | .ok configured =>
    let configuration := Arguments.override arguments configured
    match ← Snapshot.load arguments.program with
    | .error _ => return fail s!"loading program snapshot {arguments.program}"
    | .ok (program, partition) =>
      let reply ←
        if arguments.listsProcedures || arguments.listsIndirectCalls then
          list arguments configuration program partition
        else Functor.map outcomeReply <$> Analysis.run configuration program partition
      let reply : Logged Reply := do
        Logged.note (.snapshotLoaded arguments.program program.procedures.size)
        reply
      return { reply.value with log := logTexts filter program partition reply.events }

/-- The log filter unless one is given. -/
def defaultLogFilter : String := "rpcscope=info"

/-- Carries out what command-line arguments ask for, with a log filter if one is given. -/
def run (logFilter : Option String) (arguments : List String) : m Reply := do
  match Request.ofArguments arguments with
  | .help => return { output := helpText }
  | .version => return { output := versionText }
  | .refused => return { exitCode := 2 }
  | .analyse arguments =>
    -- The log is set up before any file is touched.
    match LogFilter.parse (logFilter.getD defaultLogFilter) with
    | .error cause => return refuseLogFilter cause
    | .ok filter => analyse filter arguments

end CommandLine

end SandboxRpc
