import SandboxRpc.CallGraph.RecordedTrace
import SandboxRpc.Configuration.Basic
import SandboxRpc.Report.Dot
import SandboxRpc.Report.Structured

/-!
# The analysis

`Analysis.run` makes the output directory, builds the message graph of a partitioned program, and
writes a report and a drawing of it. If one of these steps fails, those after it are not taken.
-/

namespace SandboxRpc

/-- What an analysis that went well leaves. -/
structure AnalysisOutcome where
  graph : MessageGraph
  reportPath : String
  dotPath : String
deriving Repr

/-- The step at which an analysis failed. -/
inductive AnalysisFailure where
  | outputDirectory (path : String)
  | report (path : String)
  | drawing (path : String)
deriving DecidableEq, Repr

namespace AnalysisFailure

def message : AnalysisFailure → String
  | outputDirectory path => s!"creating output directory {path}"
  | report path => s!"writing report to {path}"
  | drawing path => s!"writing RPC graph to {path}"

/-- What went wrong at that step, where it has a name. -/
def cause? : AnalysisFailure → Option Error
  | outputDirectory _ => none
  | report path => some (.unwritable path)
  | drawing path => some (.unwritable path)

end AnalysisFailure

namespace Configuration

/-- The resolver that a configuration asks for. -/
def resolver (configuration : Configuration) : Resolver where
  usesAnnotations := configuration.callGraph.annotations
  strategy :=
    match configuration.callGraph.indirectFallback with
    | .nothing => none
    | .addressTaken => some Strategy.addressTaken

/-- There is no other strategy to choose from. -/
theorem eq_addressTaken_of_mem_strategy {configuration : Configuration} {chosen : Strategy}
    (asked : chosen ∈ configuration.resolver.strategy) : chosen = Strategy.addressTaken := by
  rw [resolver] at asked
  cases fallback : configuration.callGraph.indirectFallback with
  | nothing =>
    rw [fallback] at asked
    cases asked
  | addressTaken =>
    rw [fallback] at asked
    cases asked
    rfl

/-- The trace that a configuration names. -/
def traceSource? (configuration : Configuration) : Option TraceSource :=
  configuration.callGraph.dynamicTrace.map .file

end Configuration

namespace Analysis

/-- The warnings about messages that nothing handles. -/
def warnUnhandled (graph : MessageGraph) : Logged Unit where
  value := ()
  events := graph.unhandled.map fun message =>
    .warning (.unhandled message.sender message.origin message.messageType)

/-- The report in a given format. -/
def renderReport (subject : Subject) (graph : MessageGraph) (format : ReportFormat) :
    Inquiry String := do
  let report ← Report.ofGraph subject graph
  match format with
  | .json => return report.toJsonText
  | .text => return report.toText

/-- What an analysis writes. -/
structure Products where
  graph : MessageGraph
  report : String
  drawing : String
deriving Repr

/-- The message graph of a subject with its report and its drawing. -/
def products (configuration : Configuration) (subject : Subject) : Inquiry Products := do
  Resolver.populate subject
  let graph ← MessageGraph.build configuration.conventions subject.program subject.partition
  Logged.note (.analysisBuilt graph.size)
  warnUnhandled graph
  let report ← renderReport subject graph configuration.output.format
  let drawing ← Dot.render subject graph
  return { graph, report, drawing }

variable {m : Type → Type} [Monad m] [MonadFiles m]

/-- What the source, if there is one, shows about a program. -/
def observe (program : Program) : Option TraceSource → m Observation
  | some source => source.observe program
  | none => return .unconfigured

/-- Writes what an analysis came to. -/
def write (output : OutputSettings) (products : Products) :
    m (Except AnalysisFailure AnalysisOutcome) := do
  unless ← MonadFiles.writeText output.reportPath products.report do
    return .error (.report output.reportPath)
  unless ← MonadFiles.writeText output.dotPath products.drawing do
    return .error (.drawing output.dotPath)
  return .ok {
    graph := products.graph, reportPath := output.reportPath, dotPath := output.dotPath }

/-- Analyses a partitioned program and writes the outcome. -/
def run (configuration : Configuration) (program : Program) (partition : Partition) :
    m (Logged (Except AnalysisFailure AnalysisOutcome)) := do
  let output := configuration.output
  unless ← MonadFiles.makeDirectories output.directory do
    return pure (.error (.outputDirectory output.directory))
  -- The directory is there before the trace is read, which may lie in it.
  let observed ← observe program configuration.traceSource?
  let found := (products configuration { program, partition, observed }).run' configuration.resolver
  let written ← write output found.value
  return do
    let _ ← found
    if let .ok outcome := written then
      Logged.note (.analysisWritten outcome.reportPath outcome.dotPath)
    return written

end Analysis

end SandboxRpc
