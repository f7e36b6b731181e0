import SandboxRpc.Proofs.CallGraph.Population
import SandboxRpc.Proofs.CallGraph.Views
import SandboxRpc.Proofs.Report.Agreement

/-!
# Questions in any order

One resolver serves a whole analysis: the report and the drawing put their questions to it in turn,
and each question teaches it something. `answers_in_turn` says that none of this shows. Each
question is answered as a resolver would answer it that has not been asked anything before, so it
does not matter what is asked first.

Nor does it show whether the tables of a resolver have entries for call sites that lead nowhere
(`tellAlike_entered`).
-/

namespace SandboxRpc

open Inquiry

/-- What may be asked of a resolver. To have its tables filled is a question without an answer. -/
inductive Question where
  | populate
  | callees (site : CallSite)
  | callers (id : ProcedureId)
  | isReachable (source target : ProcedureId) (context : Context)
  | callTrace (target : ProcedureId) (context : Context)
  | report (graph : MessageGraph)
  | drawing (graph : MessageGraph)

namespace Question

inductive Answer where
  | filled
  | procedures (found : List ProcedureId)
  | sites (found : List CallSite)
  | verdict (holds : Bool)
  | report (found : Report)
  | drawing (text : String)

def put (subject : Subject) : Question → Inquiry Answer
  | populate => (fun _ => .filled) <$> Resolver.populate subject
  | callees site => .procedures <$> Resolver.callees subject site
  | callers id => .sites <$> Resolver.callers subject id
  | isReachable source target context =>
    .verdict <$> Resolver.isReachable subject source target context
  | callTrace target context => .sites <$> Resolver.callTrace subject target context
  | report graph => .report <$> Report.ofGraph subject graph
  | drawing graph => .drawing <$> Dot.render subject graph

theorem steady_put (subject : Subject) (question : Question) :
    Steady subject (question.put subject) := by
  cases question with
  | populate => exact Steady.populate.map _
  | callees site => exact (Steady.callees site).map _
  | callers id => exact (Steady.callers id).map _
  | isReachable source target context => exact (Steady.isReachable source target context).map _
  | callTrace target context => exact (Steady.callTrace target context).map _
  | report graph => exact (Report.steady_ofGraph graph).map _
  | drawing graph => exact (Dot.steady_render subject graph).map _

/-- Two inquiries in a row are answered as if each were the first, in either order. -/
theorem answer_both {α β : Type} {subject : Subject} {first : Inquiry α} {second : Inquiry β}
    (steady : Steady subject first) (steady' : Steady subject second) (resolver : Resolver) :
    answer resolver (do return (← first, ← second)) =
      (answer resolver first, answer resolver second) := by
  have later : answer (after resolver first) second = answer resolver second :=
    steady'.same (steady.kept resolver)
  rw [answer_bind, answer_bind, later, answer_pure]

/-- Whatever is asked, and in whatever order, every question is answered as if it were the first.
In particular it does not matter which of the two outputs is written first. -/
theorem answers_in_turn (subject : Subject) (usesAnnotations : Bool) (strategy : Option Strategy) :
    let fresh := Resolver.fresh usesAnnotations strategy
    (∀ questions : List Question, answer fresh (questions.mapM (put subject)) =
      questions.map fun question => answer fresh (question.put subject)) ∧
    ∀ graph format,
      let report := Analysis.renderReport subject graph format
      let drawing := Dot.render subject graph
      answer fresh (do return (← report, ← drawing)) = (answer fresh report, answer fresh drawing) ∧
      answer fresh (do return (← drawing, ← report)) =
        (answer fresh drawing, answer fresh report) := by
  intro fresh
  refine ⟨fun questions => answer_mapM (steady_put subject) fresh questions, ?_⟩
  intro graph format report drawing
  have reported : Steady subject report := Analysis.steady_renderReport graph format
  have drawn : Steady subject drawing := Dot.steady_render subject graph
  exact ⟨answer_both reported drawn fresh, answer_both drawn reported fresh⟩

/-! ## Entries for nothing -/

theorem readsViews_ofGraph (subject : Subject) (graph : MessageGraph) :
    ReadsViews (Report.ofGraph subject graph) := by
  have entry (message : Message) : ReadsViews (Report.entryOf subject message) :=
    (ReadsViews.callTrace subject _ _).bind fun _ => .pure _
  exact (ReadsViews.mapM entry graph.messages).bind fun _ => .pure _

theorem readsViews_render (subject : Subject) (graph : MessageGraph) :
    ReadsViews (Dot.render subject graph) := by
  have lines (context : Context) (pair : DrawingNode × DrawingNode) :
      ReadsViews (Dot.reachLines subject context pair) :=
    (ReadsViews.isReachable subject _ _ context).bind fun _ => .pure _
  have block (cluster : Cluster) : ReadsViews (Dot.clusterBlock subject cluster) :=
    (ReadsViews.mapM (lines cluster.context) _).bind fun _ => .pure _
  exact ((ReadsViews.mapM block _).bind fun _ => .pure _).map _

theorem readsViews_put (subject : Subject) (question : Question) :
    ReadsViews (question.put subject) := by
  cases question with
  | populate => exact (ReadsViews.populate subject).map _
  | callees site => exact (ReadsViews.callees subject site).map _
  | callers id => exact (ReadsViews.callers subject id).map _
  | isReachable source target context =>
    exact (ReadsViews.isReachable subject source target context).map _
  | callTrace target context => exact (ReadsViews.callTrace subject target context).map _
  | report graph => exact (readsViews_ofGraph subject graph).map _
  | drawing graph => exact (readsViews_render subject graph).map _

/-- Resolvers that look alike tell the same after every session, in answers and in events. -/
theorem tellAlike_run {first second : Resolver} (alike : first.LookAlike second)
    (uses : List (Subject × Resolver.Use)) (subject : Subject) (questions : List Question) :
    TellAlike ((questions.mapM (put subject)).run (first.run uses))
      ((questions.mapM (put subject)).run (second.run uses)) :=
  (ReadsViews.mapM (readsViews_put subject) questions).same (alike.run uses)

/-- Whatever is asked, and after whatever session, entries for call sites without targets change
neither the answers nor the events. -/
theorem tellAlike_entered (resolver : Resolver) (sites : List CallSite)
    (uses : List (Subject × Resolver.Use)) (subject : Subject) (questions : List Question) :
    let entered := { resolver with edges := sites.foldl CallEdges.enter resolver.edges }
    TellAlike ((questions.mapM (put subject)).run (entered.run uses))
      ((questions.mapM (put subject)).run (resolver.run uses)) := by
  intro entered
  have alike : entered.LookAlike resolver :=
    ⟨rfl, rfl, rfl, resolver.edges.lookAlike_enterAll sites, rfl⟩
  exact tellAlike_run alike uses subject questions

end Question

end SandboxRpc
