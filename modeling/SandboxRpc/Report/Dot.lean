import SandboxRpc.Report.Label
import SandboxRpc.Report.Text

/-!
# DOT drawings

The message graph as a Graphviz drawing. Each context that takes part is a cluster that holds the
procedures sending from it and those handling messages there.

- Nodes are numbered through the whole drawing; entry points of a sandbox are bold.
- Invisible edges keep the nodes of a cluster in a column.
- Plain edges join procedures of a cluster one of which reaches the other.
- A dashed edge stands for each handled message.
-/

namespace SandboxRpc

/-- The procedures that take part in a message, each in its context. -/
def Message.participants (message : Message) : List (Context × ProcedureId) :=
  (message.origin, message.sender) ::
    match message.delivery with
    | .handled destination handler => [(destination, handler)]
    | _ => []

namespace MessageGraph

/-- The procedures that take part in messages, each in its context. -/
def participations (graph : MessageGraph) : List (Context × ProcedureId) :=
  graph.messages.flatMap Message.participants

/-- The procedures that take part in messages in a context, in ascending order. -/
def participantsIn (graph : MessageGraph) (context : Context) : List ProcedureId :=
  (Std.ExtTreeSet.ofList
    ((graph.participations.filter (·.1 = context)).map Prod.snd)).toList

/-- The contexts of messages with those who take part there, in ascending order. -/
def participants (graph : MessageGraph) : List (Context × List ProcedureId) :=
  (Std.ExtTreeSet.ofList (graph.participations.map Prod.fst)).toList.map fun context =>
    (context, graph.participantsIn context)

end MessageGraph

/-- A procedure in a drawing. -/
structure DrawingNode where
  number : Nat
  procedure : ProcedureId
deriving DecidableEq, Repr

/-- A context in a drawing. -/
structure Cluster where
  number : Nat
  context : Context
  nodes : List DrawingNode
deriving DecidableEq, Repr

namespace Cluster

/-- Draws contexts as clusters. Clusters and nodes are numbered on from where they are. -/
def numbered (cluster node : Nat) : List (Context × List ProcedureId) → List Cluster
  | [] => []
  | (context, procedures) :: rest =>
    let nodes := (procedures.zipIdx node).map fun entry =>
      { number := entry.2, procedure := entry.1 }
    { number := cluster, context, nodes } :: numbered (cluster + 1) (node + procedures.length) rest

/-- The clusters of a message graph. -/
def ofGraph (graph : MessageGraph) : List Cluster :=
  numbered 0 0 graph.participants

/-- The node of a procedure in a context. -/
def findNode? (clusters : List Cluster) (context : Context) (procedure : ProcedureId) :
    Option DrawingNode :=
  (clusters.find? (·.context = context)).bind fun cluster =>
    cluster.nodes.find? (·.procedure = procedure)

end Cluster

namespace Dot

/-- The start of an edge's line. -/
def arrow (source target : DrawingNode) : String :=
  s!"n{source.number} -> n{target.number}"

/-- Whether a procedure is drawn bold: it is an entry point of a sandbox. -/
def isBold (partition : Partition) (context : Context) (procedure : ProcedureId) : Bool :=
  context ≠ .privileged ∧ procedure ∈ partition.entryPointsOf context

def nodeLine (subject : Subject) (context : Context) (node : DrawingNode) : String :=
  let style := if isBold subject.partition context node.procedure then ",style=\"bold\"" else ""
  s!"\t\tn{node.number} [label=" ++ Label.quoted (subject.program.nameOf node.procedure) ++
    style ++ "];"

/-- The invisible edges between neighbours in a column. -/
def columnLines (nodes : List DrawingNode) : List String :=
  (nodes.zip nodes.tail).map fun pair => s!"\t\t{arrow pair.1 pair.2} [style=invis];"

/-- The lines between the braces of a cluster and around them. -/
def clusterLines (subject : Subject) (cluster : Cluster) : List String :=
  [s!"\tsubgraph cluster_{cluster.number} \x7b", "\t\trankdir=TB",
    "\t\tlabel = " ++ Label.quoted (subject.partition.nameOf cluster.context)] ++
  cluster.nodes.map (nodeLine subject cluster.context) ++
  columnLines cluster.nodes ++
  ["\t\x7d"]

/-- The ordered pairs of distinct nodes. -/
def nodePairs (nodes : List DrawingNode) : List (DrawingNode × DrawingNode) :=
  nodes.flatMap fun source =>
    (nodes.filter (·.procedure ≠ source.procedure)).map (source, ·)

/-- The line that shows whether one procedure reaches another. -/
def reachLines (subject : Subject) (context : Context) (pair : DrawingNode × DrawingNode) :
    Inquiry (List String) := do
  let reachable ← Resolver.isReachable subject pair.1.procedure pair.2.procedure context
  return if reachable then [s!"\t{arrow pair.1 pair.2} [constraint=false];"] else []

/-- All lines about a cluster. -/
def clusterBlock (subject : Subject) (cluster : Cluster) : Inquiry (List String) := do
  let reaching ← (nodePairs cluster.nodes).mapM (reachLines subject cluster.context)
  return clusterLines subject cluster ++ reaching.flatten

/-- The line of a message, if it is handled. -/
def messageLine? (clusters : List Cluster) (message : Message) : Option String := do
  let destination ← message.delivery.destination?
  let handler ← message.delivery.handler?
  let source ← Cluster.findNode? clusters message.origin message.sender
  let target ← Cluster.findNode? clusters destination handler
  return s!"\t{arrow source target} [label=" ++ Label.quoted message.messageType ++
    ",style=\"dashed\"];"

/-- The lines of a drawing. -/
def lines (subject : Subject) (graph : MessageGraph) : Inquiry (List String) := do
  let clusters := Cluster.ofGraph graph
  let blocks ← clusters.mapM (clusterBlock subject)
  return ["digraph G \x7b"] ++ blocks.flatten ++ [""] ++
    graph.messages.filterMap (messageLine? clusters) ++ ["\x7d"]

/-- The drawing of a message graph. -/
def render (subject : Subject) (graph : MessageGraph) : Inquiry String :=
  unlines <$> lines subject graph

end Dot

end SandboxRpc
