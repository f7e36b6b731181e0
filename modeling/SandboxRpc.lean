import SandboxRpc.Analysis
import SandboxRpc.CallGraph.Edges
import SandboxRpc.CallGraph.Exploration
import SandboxRpc.CallGraph.Links
import SandboxRpc.CallGraph.RecordedTrace
import SandboxRpc.CallGraph.Resolver
import SandboxRpc.CallGraph.Search
import SandboxRpc.CallGraph.Strategy
import SandboxRpc.CommandLine.Arguments
import SandboxRpc.CommandLine.Run
import SandboxRpc.Configuration.Basic
import SandboxRpc.Configuration.Decode
import SandboxRpc.Diagnostic.Component
import SandboxRpc.Diagnostic.Error
import SandboxRpc.Diagnostic.Event
import SandboxRpc.Diagnostic.Logged
import SandboxRpc.Diagnostic.Note
import SandboxRpc.Diagnostic.Warning
import SandboxRpc.Files.Access
import SandboxRpc.Files.Path
import SandboxRpc.Files.Tree
import SandboxRpc.Json.Basic
import SandboxRpc.Json.Decode
import SandboxRpc.Json.Literal
import SandboxRpc.Json.Printer
import SandboxRpc.Json.Reader
import SandboxRpc.Json.Token
import SandboxRpc.Log.Detail
import SandboxRpc.Log.Directive
import SandboxRpc.Log.Filter
import SandboxRpc.Log.Level
import SandboxRpc.Log.Pattern.Atom
import SandboxRpc.Log.Pattern.Basic
import SandboxRpc.Log.Pattern.Bracket
import SandboxRpc.Log.Record
import SandboxRpc.Main
import SandboxRpc.Messages.Conventions
import SandboxRpc.Messages.Graph
import SandboxRpc.Messages.Registry
import SandboxRpc.Numeral
import SandboxRpc.Parser
import SandboxRpc.Partition
import SandboxRpc.Pieces
import SandboxRpc.Program.Basic
import SandboxRpc.Program.Constant
import SandboxRpc.Report.Basic
import SandboxRpc.Report.Dot
import SandboxRpc.Report.Label
import SandboxRpc.Report.Structured
import SandboxRpc.Report.Text
import SandboxRpc.Snapshot.Basic
import SandboxRpc.Snapshot.Build
import SandboxRpc.Snapshot.Decode
import SandboxRpc.Snapshot.Load
import SandboxRpc.Toml.Scalar
import SandboxRpc.Toml.Syntax
import SandboxRpc.Toml.Table
import SandboxRpc.Toml.Text
import SandboxRpc.Unicode.Alphabetic
import SandboxRpc.Unicode.Blank
import SandboxRpc.Unicode.Extending
import SandboxRpc.Unicode.Hidden
import SandboxRpc.Unicode.Numeric
import SandboxRpc.Unicode.Ranges
import SandboxRpc.Proofs.Json.Literals
import SandboxRpc.Proofs.Json.RoundTrip
import SandboxRpc.Proofs.Messages.Registration
import SandboxRpc.Proofs.Partition.Contexts
import SandboxRpc.Proofs.Messages.Matching
import SandboxRpc.Proofs.Messages.Classification
import SandboxRpc.Proofs.CallGraph.Inquiry
import SandboxRpc.Proofs.CallGraph.Converse
import SandboxRpc.Proofs.CallGraph.BreadthFirst
import SandboxRpc.Proofs.CallGraph.Chains
import SandboxRpc.Proofs.CallGraph.Search
import SandboxRpc.Proofs.CallGraph.Population
import SandboxRpc.Proofs.CallGraph.Session
import SandboxRpc.Proofs.CallGraph.Views
import SandboxRpc.Proofs.Program.Growth
import SandboxRpc.Proofs.Snapshot.LoadedProgram
import SandboxRpc.Proofs.Snapshot.LoadedCalls
import SandboxRpc.Proofs.Partition.Growth
import SandboxRpc.Proofs.Snapshot.LoadedPartition
import SandboxRpc.Proofs.Snapshot.LoadedContexts
import SandboxRpc.Proofs.Messages.Treatment
import SandboxRpc.Proofs.Messages.Replacement
import SandboxRpc.Proofs.Snapshot.ContextNames
import SandboxRpc.Proofs.Partition.Multiplicity
import SandboxRpc.Proofs.Snapshot.Repetition
import SandboxRpc.Proofs.Snapshot.Demands
import SandboxRpc.Proofs.Snapshot.Restatement
import SandboxRpc.Proofs.CallGraph.Transparency
import SandboxRpc.Proofs.Report.Drawing
import SandboxRpc.Proofs.Report.Agreement
import SandboxRpc.Proofs.Report.Questions
import SandboxRpc.Proofs.CallGraph.Loading
import SandboxRpc.Proofs.Program.Handles
import SandboxRpc.Proofs.Program.History
import SandboxRpc.Proofs.Snapshot.LoadedHandles
import SandboxRpc.Proofs.CallGraph.Handles
import SandboxRpc.Proofs.CallGraph.Reachability
import SandboxRpc.Proofs.CallGraph.Monotonicity
import SandboxRpc.Proofs.Messages.Handles
import SandboxRpc.Proofs.Report.Handles
import SandboxRpc.Proofs.Program.Resemblance
import SandboxRpc.Proofs.CallGraph.Resemblance
import SandboxRpc.Proofs.Report.Resemblance
import SandboxRpc.Proofs.Report.Reading
import SandboxRpc.Proofs.CallGraph.AddressTaken
import SandboxRpc.Proofs.Messages.Enlargement
import SandboxRpc.Proofs.Report.Labels
import SandboxRpc.Proofs.Report.LineByLine
import SandboxRpc.Proofs.Report.Outputs
import SandboxRpc.Proofs.CallGraph.Worklist
import SandboxRpc.Proofs.CallGraph.Descent
import SandboxRpc.Proofs.CallGraph.Pointers
import SandboxRpc.Proofs.CallGraph.Ascent
import SandboxRpc.Proofs.CallGraph.Termination
