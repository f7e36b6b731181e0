import Mathlib.Data.List.Forall2
import Mathlib.Data.List.Nodup
import SandboxRpc.Report.Dot

/-!
# Drawings

A `Drawing` is what there is to see in a DOT file: clusters of nodes, edges of three kinds, and
nothing about how any of it was found out. `Drawing.text` writes it down, and `Drawing.Depicts` says
which drawings are right for a message graph.
-/

namespace SandboxRpc

/-! ## Drawings -/

namespace Drawing

structure Node where
  number : Nat
  procedure : ProcedureId
  isBold : Bool

/-- A context with its nodes. Edges are pairs of node numbers. -/
structure Block where
  number : Nat
  context : Context
  nodes : List Node
  /-- The edges that are not to be seen. -/
  column : List (Nat × Nat)
  /-- The edges from a procedure to one that it reaches. -/
  reaching : List (Nat × Nat)

structure Arrow where
  source : Nat
  target : Nat
  messageType : String

end Drawing

structure Drawing where
  blocks : List Drawing.Block
  arrows : List Drawing.Arrow

namespace Drawing

/-! ## Drawings as text -/

def edge (pair : Nat × Nat) : String :=
  s!"n{pair.1} -> n{pair.2}"

def Node.line (program : Program) (node : Node) : String :=
  s!"\t\tn{node.number} [label=" ++ Label.quoted (program.nameOf node.procedure) ++
    (if node.isBold then ",style=\"bold\"" else "") ++ "];"

def Block.lines (subject : Subject) (block : Block) : List String :=
  [s!"\tsubgraph cluster_{block.number} \x7b", "\t\trankdir=TB",
    "\t\tlabel = " ++ Label.quoted (subject.partition.nameOf block.context)] ++
  block.nodes.map (Node.line subject.program) ++
  block.column.map (fun pair => s!"\t\t{edge pair} [style=invis];") ++
  ["\t\x7d"] ++
  block.reaching.map fun pair => s!"\t{edge pair} [constraint=false];"

def Arrow.line (arrow : Arrow) : String :=
  s!"\t{edge (arrow.source, arrow.target)} [label=" ++ Label.quoted arrow.messageType ++
    ",style=\"dashed\"];"

def text (subject : Subject) (drawing : Drawing) : String :=
  unlines <| ["digraph G \x7b"] ++ drawing.blocks.flatMap (Block.lines subject) ++ [""] ++
    drawing.arrows.map Arrow.line ++ ["\x7d"]

/-! ## Right drawings -/

/-- What reaches what in each context. -/
abbrev Reachability := Context → ProcedureId → ProcedureId → Bool

/-- A node in one of the blocks stands for a procedure in a context, and has this number. -/
def Places (blocks : List Block) (context : Context) (procedure : ProcedureId) (number : Nat) :
    Prop :=
  ∃ block ∈ blocks, block.context = context ∧
    ∃ node ∈ block.nodes, node.procedure = procedure ∧ node.number = number

/-- A block is right for its context. -/
structure Block.Depicts (block : Block) (partition : Partition) (graph : MessageGraph)
    (reaches : Reachability) : Prop where
  ordered : (block.nodes.map Node.procedure).Pairwise fun first second =>
    first.index < second.index
  members : ∀ procedure, procedure ∈ block.nodes.map Node.procedure ↔
    ∃ message ∈ graph.messages, message.origin = block.context ∧ message.sender = procedure ∨
      message.delivery = .handled block.context procedure
  bold : ∀ node ∈ block.nodes, node.isBold = true ↔
    (∃ id, block.context = .sandboxed id) ∧
      node.procedure ∈ partition.entryPointsOf block.context
  /-- The invisible edges join each node to the next. -/
  column : block.column =
    (block.nodes.map Node.number).zip (block.nodes.map Node.number).tail
  reaching_distinct : block.reaching.Nodup
  reaching : ∀ source target, (source, target) ∈ block.reaching ↔
    ∃ first ∈ block.nodes, ∃ second ∈ block.nodes,
      first.number = source ∧ second.number = target ∧ first.procedure ≠ second.procedure ∧
        reaches block.context first.procedure second.procedure = true

/-- An arrow leads from the sender of a message to its handler. -/
structure Carries (blocks : List Block) (message : Message) (arrow : Arrow) : Prop where
  source : Places blocks message.origin message.sender arrow.source
  target : ∃ destination handler, message.delivery = .handled destination handler ∧
    Places blocks destination handler arrow.target
  label : arrow.messageType = message.messageType

/-- A drawing is right for a message graph. -/
structure Depicts (drawing : Drawing) (partition : Partition) (graph : MessageGraph)
    (reaches : Reachability) : Prop where
  numbers : drawing.blocks.map Block.number = List.range drawing.blocks.length
  ordered : (drawing.blocks.map Block.context).Pairwise fun first second =>
    first.rank < second.rank
  contexts : ∀ context, context ∈ drawing.blocks.map Block.context ↔
    ∃ message ∈ graph.messages, message.origin = context ∨
      ∃ handler, message.delivery = .handled context handler
  nodeNumbers : (drawing.blocks.flatMap Block.nodes).map Node.number =
    List.range (drawing.blocks.flatMap Block.nodes).length
  blocks : ∀ block ∈ drawing.blocks, block.Depicts partition graph reaches
  arrows : List.Forall₂ (Carries drawing.blocks)
    (graph.messages.filter fun message => message.delivery.handler?.isSome) drawing.arrows

/-- A number belongs to one procedure in one context. -/
theorem Depicts.eq_of_places {drawing : Drawing} {partition : Partition} {graph : MessageGraph}
    {reaches : Reachability}
    (depicts : drawing.Depicts partition graph reaches) {first second : Context}
    {procedure procedure' : ProcedureId} {number : Nat}
    (here : Places drawing.blocks first procedure number)
    (there : Places drawing.blocks second procedure' number) :
    first = second ∧ procedure = procedure' := by
  obtain ⟨block, shown, rfl, node, listed, rfl, rfl⟩ := here
  obtain ⟨block', shown', rfl, node', listed', rfl, same⟩ := there
  -- The numbers are distinct over all blocks, so each node is taken together with its context.
  let placed (block : Block) : List (Context × Node) := block.nodes.map (block.context, ·)
  have numbers : (drawing.blocks.flatMap placed).map (fun entry => entry.2.number) =
      (drawing.blocks.flatMap Block.nodes).map Node.number := by
    simp only [placed, List.map_flatMap, List.map_map]
    rfl
  have distinct : ((drawing.blocks.flatMap placed).map fun entry => entry.2.number).Nodup := by
    rw [numbers, depicts.nodeNumbers]
    exact List.nodup_range
  have member {block : Block} {node : Node} (shown : block ∈ drawing.blocks)
      (listed : node ∈ block.nodes) : (block.context, node) ∈ drawing.blocks.flatMap placed :=
    List.mem_flatMap.mpr ⟨block, shown, List.mem_map_of_mem listed⟩
  have equal : (block.context, node) = (block'.context, node') :=
    List.inj_on_of_nodup_map distinct (member shown listed) (member shown' listed') same.symm
  obtain ⟨contexts, nodes⟩ := Prod.mk.inj equal
  exact ⟨contexts, congrArg Node.procedure nodes⟩

end Drawing

end SandboxRpc
