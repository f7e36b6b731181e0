import Mathlib.Data.List.Flatten
import SandboxRpc.Proofs.CallGraph.Transparency
import SandboxRpc.Proofs.Report.Drawing

/-!
# Renderings are right drawings

`render_depicts` says that a DOT file shows a right drawing of its message graph, and nothing else.

Numbers are handed out along the way (`Cluster.numbered`), the nodes of a message are looked up
again when its edge is drawn, and reachability is asked of a resolver that learns from every
question. None of this is to be seen: numbers have neither gaps nor repetitions, no look-up fails
(`findNode?_of_participates`), and each answer is the one that the resolver would have given at the
start (`answer_mapM`).
-/

namespace SandboxRpc

/-! ## Who takes part -/

namespace MessageGraph

variable {graph : MessageGraph} {context : Context} {procedure : ProcedureId}

theorem mem_participations : (context, procedure) ∈ graph.participations ↔
    ∃ message ∈ graph.messages, message.origin = context ∧ message.sender = procedure ∨
      message.delivery = .handled context procedure := by
  have each (message : Message) : (context, procedure) ∈ message.participants ↔
      message.origin = context ∧ message.sender = procedure ∨
        message.delivery = .handled context procedure := by
    rw [Message.participants, List.mem_cons, Prod.mk.injEq, eq_comm, eq_comm (a := procedure)]
    cases message.delivery with
    | handled destination handler => simp [eq_comm]
    | lost => simp
    | unhandled destination => simp
  simp only [participations, List.mem_flatMap, each]

theorem mem_participantsIn :
    procedure ∈ graph.participantsIn context ↔ (context, procedure) ∈ graph.participations := by
  simp [participantsIn]

theorem participantsIn_ordered : (graph.participantsIn context).Pairwise fun first second =>
    first.index < second.index := by
  have ascending : (graph.participantsIn context).Pairwise fun first second =>
      compare first second = .lt := Std.ExtTreeSet.ordered_toList
  exact ascending.imp fun before => Nat.compare_eq_lt.mp before

theorem mem_map_fst_participations : context ∈ graph.participations.map Prod.fst ↔
    ∃ message ∈ graph.messages, message.origin = context ∨
      ∃ handler, message.delivery = .handled context handler := by
  rw [List.mem_map]
  constructor
  · rintro ⟨⟨_, procedure⟩, member, rfl⟩
    obtain ⟨message, sent, ⟨origin, _⟩ | handled⟩ := mem_participations.mp member
    · exact ⟨message, sent, .inl origin⟩
    · exact ⟨message, sent, .inr ⟨procedure, handled⟩⟩
  · rintro ⟨message, sent, origin | ⟨handler, handled⟩⟩
    · exact ⟨(context, message.sender),
        mem_participations.mpr ⟨message, sent, .inl ⟨origin, rfl⟩⟩, rfl⟩
    · exact ⟨(context, handler), mem_participations.mpr ⟨message, sent, .inr handled⟩, rfl⟩

end MessageGraph

/-! ## Numbering -/

namespace Cluster

theorem map_number_numbered (cluster node : Nat) (members : List (Context × List ProcedureId)) :
    (numbered cluster node members).map number =
      List.range' cluster (numbered cluster node members).length := by
  induction members generalizing cluster node with
  | nil => rfl
  | cons member members ih =>
    rw [numbered, List.map_cons, ih, List.length_cons, List.range'_succ]

/-- Apart from the numbers, clusters are what they were made from. -/
theorem map_numbered (cluster node : Nat) (members : List (Context × List ProcedureId)) :
    (numbered cluster node members).map
      (fun cluster => (cluster.context, cluster.nodes.map DrawingNode.procedure)) = members := by
  induction members generalizing cluster node with
  | nil => rfl
  | cons member members ih =>
    rw [numbered, List.map_cons, ih]
    simp [Function.comp_def]

theorem map_number_nodes_numbered (cluster node : Nat)
    (members : List (Context × List ProcedureId)) :
    ((numbered cluster node members).flatMap nodes).map DrawingNode.number =
      List.range' node ((numbered cluster node members).flatMap nodes).length := by
  induction members generalizing cluster node with
  | nil => rfl
  | cons member members ih =>
    have here (procedures : List ProcedureId) :
        ((procedures.zipIdx node).map fun entry =>
          (DrawingNode.mk entry.2 entry.1)).map DrawingNode.number =
            List.range' node procedures.length := by
      rw [List.map_map, ← List.zipIdx_map_snd]
      rfl
    -- The nodes of the other clusters are numbered on from the last one in this cluster.
    rw [numbered, List.flatMap_cons, List.map_append, ih, here, List.length_append,
      List.length_map, List.length_zipIdx]
    have joined := @List.range'_append node member.2.length
      ((numbered (cluster + 1) (node + member.2.length) members).flatMap nodes).length 1
    rwa [Nat.one_mul] at joined

variable {graph : MessageGraph} {context : Context} {procedure : ProcedureId} {cluster : Cluster}

theorem map_context_ofGraph : (ofGraph graph).map Cluster.context =
    (Std.ExtTreeSet.ofList (graph.participations.map Prod.fst)).toList := by
  have same : (ofGraph graph).map Cluster.context = graph.participants.map Prod.fst := by
    rw [← map_numbered 0 0 graph.participants, List.map_map]
    rfl
  rw [same, MessageGraph.participants, List.map_map]
  exact List.map_id _

theorem map_procedure_nodes (member : cluster ∈ ofGraph graph) :
    cluster.nodes.map DrawingNode.procedure = graph.participantsIn cluster.context := by
  have listed : (cluster.context, cluster.nodes.map DrawingNode.procedure) ∈ graph.participants := by
    rw [← map_numbered 0 0 graph.participants]
    exact List.mem_map_of_mem member
  obtain ⟨context, _, same⟩ := List.mem_map.mp listed
  obtain ⟨here, members⟩ := Prod.mk.inj same
  rw [← members, here]

theorem map_number_nodes_ofGraph : ((ofGraph graph).flatMap nodes).map DrawingNode.number =
    List.range ((ofGraph graph).flatMap nodes).length := by
  rw [List.range_eq_range']
  exact map_number_nodes_numbered 0 0 graph.participants

theorem nodup_numbers (member : cluster ∈ ofGraph graph) :
    (cluster.nodes.map DrawingNode.number).Nodup := by
  have distinct : (((ofGraph graph).flatMap nodes).map DrawingNode.number).Nodup := by
    rw [map_number_nodes_ofGraph]
    exact List.nodup_range
  rw [List.map_flatMap] at distinct
  exact (List.nodup_flatMap.mp distinct).1 cluster member

/-- Whoever takes part in a message has a node. -/
theorem findNode?_of_participates (participates : (context, procedure) ∈ graph.participations) :
    ∃ cluster ∈ ofGraph graph, cluster.context = context ∧ ∃ node ∈ cluster.nodes,
      node.procedure = procedure ∧ findNode? (ofGraph graph) context procedure = some node := by
  have drawn : context ∈ (ofGraph graph).map Cluster.context := by
    rw [map_context_ofGraph]
    simpa using ⟨procedure, participates⟩
  obtain ⟨_, member, same⟩ := List.mem_map.mp drawn
  -- The look-up may stop at another cluster of the context; all of them have the same nodes.
  have known : ((ofGraph graph).find? (·.context = context)).isSome :=
    List.find?_isSome.mpr ⟨_, member, decide_eq_true same⟩
  obtain ⟨cluster, found⟩ := Option.isSome_iff_exists.mp known
  have here : cluster.context = context := by simpa using List.find?_some found
  have inside := List.mem_of_find?_eq_some found
  have shown : procedure ∈ cluster.nodes.map DrawingNode.procedure := by
    rw [map_procedure_nodes inside, here]
    exact MessageGraph.mem_participantsIn.mpr participates
  obtain ⟨_, listed, same⟩ := List.mem_map.mp shown
  have placed : (cluster.nodes.find? (·.procedure = procedure)).isSome :=
    List.find?_isSome.mpr ⟨_, listed, decide_eq_true same⟩
  obtain ⟨node, first⟩ := Option.isSome_iff_exists.mp placed
  have named : node.procedure = procedure := by simpa using List.find?_some first
  refine ⟨cluster, inside, here, node, List.mem_of_find?_eq_some first, named, ?_⟩
  rw [findNode?, found]
  exact first

end Cluster

namespace Drawing

/-! ## The drawing of a graph -/

variable {partition : Partition} {graph : MessageGraph} {reaches : Reachability}

def Node.ofNode (partition : Partition) (context : Context) (node : DrawingNode) : Node where
  number := node.number
  procedure := node.procedure
  isBold := Dot.isBold partition context node.procedure

def Block.ofCluster (partition : Partition) (reaches : Reachability) (cluster : Cluster) :
    Block where
  number := cluster.number
  context := cluster.context
  nodes := cluster.nodes.map (Node.ofNode partition cluster.context)
  column := (cluster.nodes.zip cluster.nodes.tail).map fun pair => (pair.1.number, pair.2.number)
  reaching := ((Dot.nodePairs cluster.nodes).filter fun pair =>
    reaches cluster.context pair.1.procedure pair.2.procedure).map fun pair =>
      (pair.1.number, pair.2.number)

theorem mem_nodePairs {nodes : List DrawingNode} {pair : DrawingNode × DrawingNode} :
    pair ∈ Dot.nodePairs nodes ↔
      pair.1 ∈ nodes ∧ pair.2 ∈ nodes ∧ pair.1.procedure ≠ pair.2.procedure := by
  obtain ⟨first, second⟩ := pair
  simp only [Dot.nodePairs, List.mem_flatMap, List.mem_map, List.mem_filter, decide_eq_true_eq,
    Prod.mk.injEq]
  grind

theorem nodup_numbers_nodePairs {nodes : List DrawingNode}
    (distinct : (nodes.map DrawingNode.number).Nodup) :
    ((Dot.nodePairs nodes).map fun pair => (pair.1.number, pair.2.number)).Nodup := by
  have nodup : nodes.Nodup := distinct.of_map
  have sublist : (Dot.nodePairs nodes).Sublist (nodes.product nodes) :=
    List.Sublist.flatMap_right nodes fun source _ => List.filter_sublist.map (Prod.mk source)
  -- Two pairs with the same numbers have the same nodes.
  refine List.Nodup.map_on (fun first member second member' same => ?_)
    ((nodup.product nodup).sublist sublist)
  obtain ⟨source, target, _⟩ := mem_nodePairs.mp member
  obtain ⟨source', target', _⟩ := mem_nodePairs.mp member'
  obtain ⟨left, right⟩ := Prod.mk.inj same
  exact Prod.ext (List.inj_on_of_nodup_map distinct source source' left)
    (List.inj_on_of_nodup_map distinct target target' right)

theorem map_procedure_ofCluster {cluster : Cluster} (member : cluster ∈ Cluster.ofGraph graph) :
    (Block.ofCluster partition reaches cluster).nodes.map Node.procedure =
      graph.participantsIn cluster.context := by
  rw [← Cluster.map_procedure_nodes member, Block.ofCluster, List.map_map]
  rfl

theorem Block.depicts_ofCluster {cluster : Cluster} (member : cluster ∈ Cluster.ofGraph graph) :
    (Block.ofCluster partition reaches cluster).Depicts partition graph
      reaches where
  ordered := by
    rw [map_procedure_ofCluster member]
    exact MessageGraph.participantsIn_ordered
  members procedure := by
    rw [map_procedure_ofCluster member, MessageGraph.mem_participantsIn]
    exact MessageGraph.mem_participations
  bold node shown := by
    obtain ⟨node, _, rfl⟩ := List.mem_map.mp shown
    show Dot.isBold partition cluster.context node.procedure = true ↔ _
    cases context : cluster.context with
    | privileged => simp [Dot.isBold, ofCluster, context]
    | sandboxed id => simp [Dot.isBold, ofCluster, context, Node.ofNode]
  column := by
    have numbers : (Block.ofCluster partition reaches cluster).nodes.map Node.number =
        cluster.nodes.map DrawingNode.number := by
      rw [ofCluster, List.map_map]
      rfl
    rw [numbers, ← List.map_tail, List.zip_map]
    rfl
  reaching_distinct :=
    (nodup_numbers_nodePairs (Cluster.nodup_numbers member)).sublist (List.filter_sublist.map _)
  reaching source target := by
    simp only [ofCluster, List.mem_map, List.mem_filter, mem_nodePairs, Prod.mk.injEq]
    constructor
    · rintro ⟨⟨first, second⟩, ⟨⟨left, right, apart⟩, reached⟩, rfl, rfl⟩
      exact ⟨_, ⟨first, left, rfl⟩, _, ⟨second, right, rfl⟩, rfl, rfl, apart, reached⟩
    · rintro ⟨_, ⟨first, left, rfl⟩, _, ⟨second, right, rfl⟩, rfl, rfl, apart, reached⟩
      exact ⟨(first, second), ⟨⟨left, right, apart⟩, reached⟩, rfl, rfl⟩

def blocksOf (partition : Partition) (graph : MessageGraph) (reaches : Reachability) :
    List Block :=
  (Cluster.ofGraph graph).map (Block.ofCluster partition reaches)

theorem map_context_blocksOf : (blocksOf partition graph reaches).map Block.context =
    (Std.ExtTreeSet.ofList (graph.participations.map Prod.fst)).toList := by
  rw [← Cluster.map_context_ofGraph, blocksOf, List.map_map]
  rfl

theorem map_number_nodes_blocksOf :
    ((blocksOf partition graph reaches).flatMap Block.nodes).map Node.number =
      ((Cluster.ofGraph graph).flatMap Cluster.nodes).map DrawingNode.number := by
  rw [blocksOf, List.map_flatMap, List.flatMap_map, List.map_flatMap]
  exact List.flatMap_congr fun _ _ => List.map_map

theorem depicts_blocksOf {arrows : List Arrow}
    (carried : List.Forall₂ (Carries (blocksOf partition graph reaches))
      (graph.messages.filter fun message => message.delivery.handler?.isSome) arrows) :
    Depicts ⟨blocksOf partition graph reaches, arrows⟩ partition graph
      reaches where
  numbers := by
    show ((Cluster.ofGraph graph).map _).map Block.number = List.range (List.map _ _).length
    rw [List.length_map, List.map_map, List.range_eq_range']
    exact Cluster.map_number_numbered 0 0 graph.participants
  ordered := by
    rw [map_context_blocksOf]
    have ascending := @Std.ExtTreeSet.ordered_toList _ _
      (Std.ExtTreeSet.ofList (graph.participations.map Prod.fst)) _
    exact ascending.imp fun before => Nat.compare_eq_lt.mp before
  contexts context := by
    rw [map_context_blocksOf, ← MessageGraph.mem_map_fst_participations]
    simp
  nodeNumbers := by
    rw [← List.length_map Node.number, map_number_nodes_blocksOf, List.length_map]
    exact Cluster.map_number_nodes_ofGraph
  blocks block shown := by
    obtain ⟨cluster, member, rfl⟩ := List.mem_map.mp shown
    exact Block.depicts_ofCluster member
  arrows := carried

/-! ### Arrows -/

theorem messageLine?_of_unhandled {clusters : List Cluster} {message : Message}
    (unhandled : message.delivery.handler? = none) :
    Dot.messageLine? clusters message = none := by
  rw [Dot.messageLine?, unhandled]
  cases message.delivery.destination? <;> rfl

theorem messageLine?_of_handled {clusters : List Cluster} {message : Message}
    {destination : Context} {handler : ProcedureId} {source target : DrawingNode}
    (delivery : message.delivery = .handled destination handler)
    (sender : Cluster.findNode? clusters message.origin message.sender = some source)
    (receiver : Cluster.findNode? clusters destination handler = some target) :
    Dot.messageLine? clusters message =
      some (Arrow.line ⟨source.number, target.number, message.messageType⟩) := by
  simp [Dot.messageLine?, delivery, Delivery.destination?, Delivery.handler?, sender, receiver,
    Arrow.line, edge, Dot.arrow]

theorem places_of_participates {context : Context} {procedure : ProcedureId}
    (participates : (context, procedure) ∈ graph.participations) :
    ∃ node, Cluster.findNode? (Cluster.ofGraph graph) context procedure = some node ∧
      Places (blocksOf partition graph reaches) context procedure node.number := by
  obtain ⟨cluster, drawn, here, node, shown, named, found⟩ :=
    Cluster.findNode?_of_participates participates
  exact ⟨node, found, Block.ofCluster partition reaches cluster, List.mem_map_of_mem drawn,
    here, Node.ofNode partition cluster.context node, List.mem_map_of_mem shown, named, rfl⟩

/-- A handled message has a line, since both look-ups for it succeed. -/
theorem exists_arrow (partition : Partition) (reaches : Reachability) {message : Message}
    (sent : message ∈ graph.messages) (handled : message.delivery.handler?.isSome) :
    ∃ arrow, Carries (blocksOf partition graph reaches) message arrow ∧
      Dot.messageLine? (Cluster.ofGraph graph) message = some arrow.line := by
  cases delivery : message.delivery with
  | handled destination handler =>
    have sends : (message.origin, message.sender) ∈ graph.participations :=
      MessageGraph.mem_participations.mpr ⟨message, sent, .inl ⟨rfl, rfl⟩⟩
    have handles : (destination, handler) ∈ graph.participations :=
      MessageGraph.mem_participations.mpr ⟨message, sent, .inr delivery⟩
    obtain ⟨source, foundSource, sourcePlace⟩ := places_of_participates sends
    obtain ⟨target, foundTarget, targetPlace⟩ := places_of_participates handles
    exact ⟨⟨source.number, target.number, message.messageType⟩,
      ⟨sourcePlace, ⟨destination, handler, delivery, targetPlace⟩, rfl⟩,
      messageLine?_of_handled delivery foundSource foundTarget⟩
  | lost =>
    rw [delivery] at handled
    cases handled
  | unhandled destination =>
    rw [delivery] at handled
    cases handled

theorem exists_arrows (partition : Partition) (reaches : Reachability)
    {messages : List Message} (sent : messages ⊆ graph.messages) :
    ∃ arrows,
      List.Forall₂ (Carries (blocksOf partition graph reaches))
        (messages.filter fun message => message.delivery.handler?.isSome) arrows ∧
      messages.filterMap (Dot.messageLine? (Cluster.ofGraph graph)) = arrows.map Arrow.line := by
  -- Over the messages still to be drawn; the blocks are those of the whole graph throughout.
  induction messages with
  | nil => exact ⟨[], .nil, rfl⟩
  | cons message messages ih =>
    obtain ⟨arrows, carried, written⟩ := ih fun _ member => sent (List.mem_cons_of_mem _ member)
    by_cases handled : message.delivery.handler?.isSome
    · obtain ⟨arrow, carries, line⟩ :=
        exists_arrow partition reaches (sent List.mem_cons_self) handled
      refine ⟨arrow :: arrows, ?_, ?_⟩
      · rw [List.filter_cons, if_pos handled]
        exact .cons carries carried
      · rw [List.filterMap_cons_some line, written, List.map_cons]
    · have unhandled := Option.not_isSome_iff_eq_none.mp handled
      refine ⟨arrows, ?_, ?_⟩
      · rwa [List.filter_cons, if_neg handled]
      · rw [List.filterMap_cons_none (messageLine?_of_unhandled unhandled), written]

end Drawing

/-! ## Rendering -/

open Inquiry

/-- What a resolver says of reachability, whenever it is asked. -/
def Resolver.reaches (resolver : Resolver) (subject : Subject) : Drawing.Reachability :=
  fun context source target => answer resolver (isReachable subject source target context)

namespace Dot

variable (subject : Subject) (resolver : Resolver)

theorem steady_reachLines (context : Context) (pair : DrawingNode × DrawingNode) :
    Steady subject (reachLines subject context pair) :=
  (Steady.isReachable _ _ context).bind fun _ => Steady.pure _

theorem steady_clusterBlock (cluster : Cluster) : Steady subject (clusterBlock subject cluster) :=
  (Steady.mapM (steady_reachLines subject cluster.context) _).bind fun _ => Steady.pure _

theorem steady_render (graph : MessageGraph) : Steady subject (render subject graph) :=
  ((Steady.mapM (steady_clusterBlock subject) _).bind fun _ => Steady.pure _).map _

theorem flatten_reachLines (context : Context) (pairs : List (DrawingNode × DrawingNode)) :
    (pairs.map fun pair => answer resolver (reachLines subject context pair)).flatten =
      (pairs.filter fun pair =>
        resolver.reaches subject context pair.1.procedure pair.2.procedure).map fun pair =>
          s!"\t{arrow pair.1 pair.2} [constraint=false];" := by
  induction pairs with
  | nil => rfl
  | cons pair pairs ih =>
    have first : answer resolver (reachLines subject context pair) =
        if resolver.reaches subject context pair.1.procedure pair.2.procedure then
          [s!"\t{arrow pair.1 pair.2} [constraint=false];"] else [] := rfl
    rw [List.map_cons, List.flatten_cons, ih, first, List.filter_cons]
    split <;> rfl

theorem answer_clusterBlock (cluster : Cluster) :
    answer resolver (clusterBlock subject cluster) =
      (Drawing.Block.ofCluster subject.partition (resolver.reaches subject) cluster).lines
        subject := by
  -- All pairs are asked about as if each were the first.
  have reaching : answer resolver
      ((nodePairs cluster.nodes).mapM (reachLines subject cluster.context)) = _ :=
    answer_mapM (steady_reachLines subject cluster.context) resolver _
  rw [clusterBlock, answer_bind, answer_pure, reaching, flatten_reachLines]
  simp only [Drawing.Block.lines, Drawing.Block.ofCluster, clusterLines, columnLines, List.map_map]
  rfl

theorem answer_lines {graph : MessageGraph} {arrows : List Drawing.Arrow}
    (written : graph.messages.filterMap (messageLine? (Cluster.ofGraph graph)) =
      arrows.map Drawing.Arrow.line) :
    answer resolver (lines subject graph) =
      ["digraph G \x7b"] ++
        (Drawing.blocksOf subject.partition graph (resolver.reaches subject)).flatMap
          (Drawing.Block.lines subject) ++
        [""] ++ arrows.map Drawing.Arrow.line ++ ["\x7d"] := by
  show ["digraph G \x7b"] ++
    (answer resolver ((Cluster.ofGraph graph).mapM (clusterBlock subject))).flatten ++ [""] ++
    graph.messages.filterMap (messageLine? (Cluster.ofGraph graph)) ++ ["\x7d"] = _
  rw [answer_mapM (steady_clusterBlock subject), written, Drawing.blocksOf, List.flatMap_map,
    List.flatMap_def]
  simp only [answer_clusterBlock]

theorem answer_render {graph : MessageGraph} {arrows : List Drawing.Arrow}
    (written : graph.messages.filterMap (messageLine? (Cluster.ofGraph graph)) =
      arrows.map Drawing.Arrow.line) :
    answer resolver (render subject graph) =
      Drawing.text subject
        ⟨Drawing.blocksOf subject.partition graph (resolver.reaches subject), arrows⟩ :=
  congrArg unlines (answer_lines subject resolver written)

/-- A rendering is a right drawing of the graph. The resolver may have been asked anything before,
and what it learns along the way makes no difference. -/
theorem render_depicts (graph : MessageGraph) :
    ∃ drawing : Drawing,
      answer resolver (render subject graph) = drawing.text subject ∧
      drawing.Depicts subject.partition graph (resolver.reaches subject) := by
  obtain ⟨arrows, carried, written⟩ := Drawing.exists_arrows subject.partition
    (resolver.reaches subject) (List.Subset.refl graph.messages)
  exact ⟨⟨Drawing.blocksOf subject.partition graph (resolver.reaches subject), arrows⟩,
    answer_render subject resolver written, Drawing.depicts_blocksOf carried⟩

end Dot

end SandboxRpc
