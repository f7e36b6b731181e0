import SandboxRpc.Proofs.CallGraph.Resemblance
import SandboxRpc.Proofs.Report.Questions

/-!
# Spelling does not show

How a program spells its operands makes no difference to an analysis. Casts around arguments and
whatever follows the text of a character array change neither the message graph nor what is warned
of, neither the tables of a resolver nor its answers, and neither the report nor the drawing.
-/

namespace SandboxRpc

open Inquiry

/-! ## Messages and words -/

namespace Program.AnswersAs

variable {first second : Program} (alike : first.AnswersAs second)
include alike

theorem operation? (conventions : Conventions) :
    conventions.operation? first = conventions.operation? second := by
  funext site
  rw [Conventions.operation?, Conventions.operation?, alike.targetOf, alike.nameOf]

theorem ofCalls (conventions : Conventions) :
    Registry.ofCalls conventions first = Registry.ofCalls conventions second := by
  have visit : Registry.visit conventions first = Registry.visit conventions second := by
    funext context registry site
    simp only [Registry.visit, Registry.receive, alike.operation?, alike.textArgument?,
      alike.procedureArgument?]
  funext context calls
  rw [Registry.ofCalls, Registry.ofCalls, visit]

theorem message? (partition : Partition) :
    MessageGraph.message? first partition = MessageGraph.message? second partition := by
  funext registries origin site
  rw [MessageGraph.message?, MessageGraph.message?, alike.textArgument?]

theorem build (conventions : Conventions) (partition : Partition) :
    MessageGraph.build conventions first partition =
      MessageGraph.build conventions second partition := by
  have registries : MessageGraph.registries conventions first partition =
      MessageGraph.registries conventions second partition := by
    rw [MessageGraph.registries, MessageGraph.registries, alike.population, alike.ofCalls]
  have sends : MessageGraph.sends conventions first partition =
      MessageGraph.sends conventions second partition := by
    rw [MessageGraph.sends, MessageGraph.sends, alike.population, alike.operation?]
  rw [MessageGraph.build, MessageGraph.build, registries, sends, alike.message?]

theorem record (partition : Partition) (event : Event) :
    event.record first partition = event.record second partition := by
  cases event with
  | warning given =>
    have fields : given.fields first partition = given.fields second partition := by
      unfold Warning.fields
      rw [alike.describe, alike.nameOf]
    rw [Event.record, Event.record, fields]
  | note taken =>
    have fields : taken.fields first partition = taken.fields second partition := by
      unfold Note.fields
      rw [alike.describe, alike.nameOf, alike.callCount]
    rw [Event.record, Event.record, fields]

end Program.AnswersAs

/-! ## Reports and drawings -/

namespace Subject.AnswersAs

variable {here there : Subject} (alike : here.AnswersAs there)
include alike

theorem ofGraph (graph : MessageGraph) : RunsAs here.program there.program
    (Report.ofGraph here graph) (Report.ofGraph there graph) := by
  have receiverOf : Report.receiverOf here = Report.receiverOf there := by
    funext delivery
    unfold Report.receiverOf
    rw [alike.partition, alike.program.nameOf]
  have replacementOf : Report.replacementOf here = Report.replacementOf there := by
    funext replacement
    rw [Report.replacementOf, Report.replacementOf, alike.partition, alike.program.nameOf]
  have entryOf (message : Message) : RunsAs here.program there.program
      (Report.entryOf here message) (Report.entryOf there message) := by
    rw [Report.entryOf, Report.entryOf, receiverOf, alike.partition, alike.program.nameOf,
      alike.program.describe]
    exact (alike.callTrace _ _).bind fun _ => .pure _
  rw [Report.ofGraph, Report.ofGraph, replacementOf]
  exact (RunsAs.mapM entryOf _).bind fun _ => .pure _

theorem render (graph : MessageGraph) : RunsAs here.program there.program
    (Dot.render here graph) (Dot.render there graph) := by
  have clusterLines : Dot.clusterLines here = Dot.clusterLines there := by
    funext cluster
    have nodeLine : Dot.nodeLine here = Dot.nodeLine there := by
      funext context node
      rw [Dot.nodeLine, Dot.nodeLine, alike.partition, alike.program.nameOf]
    rw [Dot.clusterLines, Dot.clusterLines, nodeLine, alike.partition]
  have reachLines (context : Context) (pair : DrawingNode × DrawingNode) :
      RunsAs here.program there.program (Dot.reachLines here context pair)
        (Dot.reachLines there context pair) :=
    (alike.isReachable _ _ _).bind fun _ => .pure _
  have clusterBlock (cluster : Cluster) : RunsAs here.program there.program
      (Dot.clusterBlock here cluster) (Dot.clusterBlock there cluster) := by
    rw [Dot.clusterBlock, Dot.clusterBlock, clusterLines]
    exact (RunsAs.mapM (reachLines cluster.context) _).bind fun _ => .pure _
  exact ((RunsAs.mapM clusterBlock _).bind fun _ => .pure _).map _

theorem put (question : Question) : RunsAs here.program there.program
    (question.put here) (question.put there) := by
  cases question with
  | populate => exact alike.populate.map _
  | callees site => exact (alike.callees site).map _
  | callers id => exact (alike.callers id).map _
  | isReachable source target context => exact (alike.isReachable source target context).map _
  | callTrace target context => exact (alike.callTrace target context).map _
  | report graph => exact (alike.ofGraph graph).map _
  | drawing graph => exact (alike.render graph).map _

theorem products (configuration : Configuration) : RunsAs here.program there.program
    (Analysis.products configuration here) (Analysis.products configuration there) := by
  rw [Analysis.products, Analysis.products, alike.partition, alike.program.build]
  refine alike.populate.bind fun _ => RunsAs.bind (.of_kept fun _ => rfl) fun graph =>
    RunsAs.bind (.of_kept fun _ => rfl) fun _ => RunsAs.bind (.of_kept fun _ => rfl) fun _ => ?_
  have rendered : RunsAs here.program there.program
      (Analysis.renderReport here graph configuration.output.format)
      (Analysis.renderReport there graph configuration.output.format) := by
    refine (alike.ofGraph graph).bind fun report => ?_
    cases configuration.output.format with
    | json => exact .pure _
    | text => exact .pure _
  exact rendered.bind fun _ => (alike.render graph).bind fun _ => .pure _

end Subject.AnswersAs

/-! ## Analyses -/

namespace Program

variable {first second : Program}

theorem AnswersAs.run (alike : first.AnswersAs second) {m : Type → Type} [Monad m] [MonadFiles m]
    (configuration : Configuration) (partition : Partition) :
    (Analysis.run configuration first partition :
        m (Logged (Except AnalysisFailure AnalysisOutcome))) =
      Analysis.run configuration second partition := by
  have observed (source : Option TraceSource) :
      (Analysis.observe first source : m Observation) = Analysis.observe second source := by
    cases source with
    | none => rfl
    | some source => exact alike.observe source
  have decides : configuration.resolver.DecidesAlike first second := by
    intro chosen asked
    rw [Configuration.eq_addressTaken_of_mem_strategy asked]
    exact alike.decide_addressTaken
  have found (observed : Observation) :
      (Analysis.products configuration { program := first, partition, observed }).run'
        configuration.resolver =
      (Analysis.products configuration { program := second, partition, observed }).run'
        configuration.resolver := by
    have subjects : Subject.AnswersAs { program := first, partition, observed }
        { program := second, partition, observed } := ⟨alike, rfl, rfl⟩
    rw [StateT.run'_eq, StateT.run'_eq, (subjects.products configuration).same decides]
  simp only [Analysis.run, observed, found]

/-- Two programs that differ in spelling only are analysed alike: their messages, whatever there is
to warn of and its words, and all that a resolver learns and says of them are the same, as long as
the strategy has no other way to tell them apart. The one for taken addresses has none. -/
theorem Resembles.analyses_agree (resembles : first.Resembles second) (partition : Partition) :
    first.addressTaken = second.addressTaken ∧
    Strategy.addressTaken first = Strategy.addressTaken second ∧
    (∀ event : Event, event.record first partition = event.record second partition) ∧
    (∀ conventions, MessageGraph.build conventions first partition =
      MessageGraph.build conventions second partition) ∧
    (∀ source : Program → Observation, source first = source second →
      ∀ resolver : Resolver, resolver.DecidesAlike first second →
        let here : Subject := { program := first, partition, observed := source first }
        let there : Subject := { program := second, partition, observed := source second }
        (∀ configuration, (Analysis.products configuration here).run resolver =
          (Analysis.products configuration there).run resolver) ∧
        ∀ questions : List Question, (questions.mapM (Question.put here)).run resolver =
          (questions.mapM (Question.put there)).run resolver) ∧
    ∀ (m : Type → Type) [Monad m] [MonadFiles m] (configuration : Configuration),
      (Analysis.run configuration first partition :
          m (Logged (Except AnalysisFailure AnalysisOutcome))) =
        Analysis.run configuration second partition := by
  have alike := resembles.answersAs
  refine ⟨alike.addressTaken, alike.decide_addressTaken, alike.record partition,
    fun conventions => alike.build conventions partition, ?_,
    fun m _ _ configuration => alike.run configuration partition⟩
  intro source shown resolver decides here there
  have subjects : here.AnswersAs there := ⟨alike, rfl, shown⟩
  exact ⟨fun configuration => (subjects.products configuration).same decides,
    fun questions => (RunsAs.mapM subjects.put questions).same decides⟩

/-- `main` sends `PING` and then calls itself through a pointer. One front end wraps the type and
the pointer in casts; another one pads the texts and wraps the destination. -/
theorem Resembles.analyses_agree_on_ping :
    let program := fun (calls : Array Call) (recipient message : String) =>
      let procedures : Array Procedure :=
        #[{ name := "__soaap_rpc_send_helper", arity := none },
          { name := "main", arity := some 1, calls }]
      let named := Program.setGlobal { procedures } "to" (.characters recipient)
      Program.setGlobal named "ping" (.characters message)
    let first := program
      #[⟨.direct ⟨0⟩, [.global "to", .cast (.cast (.global "ping"))]⟩,
        ⟨.indirect, [.cast (.function ⟨1⟩)]⟩]
      "<privileged>\x00" "PING"
    let second := program
      #[⟨.direct ⟨0⟩, [.cast (.global "to"), .global "ping"]⟩, ⟨.indirect, [.function ⟨1⟩]⟩]
      "<privileged>\x00old" "PING\x00\x00"
    let source := fun program : Program =>
      Observation.edges "trace" (TraceEntry.edges program [⟨"main", 1, "main"⟩])
    let partition : Partition := { privileged := [⟨1⟩], privilegedEntryPoints := [⟨1⟩] }
    let here : Subject := { program := first, partition, observed := source first }
    let there : Subject := { program := second, partition, observed := source second }
    let resolver : Resolver := { strategy := some Strategy.addressTaken }
    first.Resembles second ∧ source first = source second ∧ resolver.DecidesAlike first second ∧
      (Analysis.products {} here).run resolver = (Analysis.products {} there).run resolver := by
  intro program first second source partition here there resolver
  have destination : SameUpToNul "<privileged>\x00" "<privileged>\x00old" :=
    ⟨"<privileged>".toList, ['\x00'], ['\x00', 'o', 'l', 'd'], by simp [IsSpent]⟩
  have messageType : SameUpToNul "PING" "PING\x00\x00" :=
    ⟨"PING".toList, [], ['\x00', '\x00'], by simp [IsSpent]⟩
  have bare {calls calls' : Array Call}
      (alike : List.Forall₂ Call.Resembles calls.toList calls'.toList) :
      Program.Resembles
        { procedures := #[{ name := "__soaap_rpc_send_helper", arity := none },
          { name := "main", arity := some 1, calls }] }
        { procedures := #[{ name := "__soaap_rpc_send_helper", arity := none },
          { name := "main", arity := some 1, calls := calls' }] } :=
    ⟨.cons ⟨rfl, rfl, .nil⟩ (.cons ⟨rfl, rfl, alike⟩ .nil), rfl, fun _ => .none, rfl⟩
  have sending : Call.Resembles ⟨.direct ⟨0⟩, [.global "to", .cast (.cast (.global "ping"))]⟩
      ⟨.direct ⟨0⟩, [.cast (.global "to"), .global "ping"]⟩ :=
    ⟨rfl, .cons (.right (.refl _)) (.cons (.left (.left (.refl _))) .nil)⟩
  have calling : Call.Resembles ⟨.indirect, [.cast (.function ⟨1⟩)]⟩
      ⟨.indirect, [.function ⟨1⟩]⟩ :=
    ⟨rfl, .cons (.left (.refl _)) .nil⟩
  have resembles : first.Resembles second :=
    ((bare (.cons sending (.cons calling .nil))).setGlobal "to" (.characters destination)).setGlobal
      "ping" (.characters messageType)
  obtain ⟨_, decides, _, _, analysed, _⟩ := resembles.analyses_agree partition
  have shown : source first = source second :=
    congrArg (Observation.edges "trace") (resembles.answersAs.edges _)
  have same : resolver.DecidesAlike first second := by
    rintro chosen ⟨⟩
    exact decides
  exact ⟨resembles, shown, same, (analysed source shown resolver same).1 {}⟩

end Program

end SandboxRpc
