import SandboxRpc.Proofs.CallGraph.Population

/-!
# Sessions with a resolver

A session uses one resolver over and over, while the program, its partition and what is observed of
its runs may change between the uses. `Use.preserves` reduces what every use keeps to three cases
(filling the tables, merging edges, learning a scope), and `preserves_run` carries it over a
session.

- Both directions of the edges agree whatever happens: `IsConverse`.
- As long as the program stays the same, a direct call has no callee but its target: `FitsDirect`.

`run_fresh_converse` puts both together for the answers that a session sees.
-/

namespace SandboxRpc

open Inquiry

namespace Resolver

/-- A use of a resolver. -/
inductive Use where
  | populate
  | loadObserved
  | loadAnnotated
  | callees (site : CallSite)
  | callers (id : ProcedureId)
  | isReachable (source target : ProcedureId) (context : Context)
  | callTrace (target : ProcedureId) (context : Context)
deriving DecidableEq, Repr

/-- The resolver after a use that is about a given subject. -/
def Use.next (resolver : Resolver) (subject : Subject) : Use → Resolver
  | populate => after resolver (Resolver.populate subject)
  | loadObserved => after resolver (Resolver.loadObserved subject)
  | loadAnnotated => after resolver (Resolver.loadAnnotated subject)
  | callees site => after resolver (Resolver.callees subject site)
  | callers id => after resolver (Resolver.callers subject id)
  | isReachable source target context =>
    after resolver (Resolver.isReachable subject source target context)
  | callTrace target context => after resolver (Resolver.callTrace subject target context)

/-- The resolver after several uses, each with the subject that it is about. -/
def run (resolver : Resolver) (uses : List (Subject × Use)) : Resolver :=
  uses.foldl (fun resolver use => use.2.next resolver use.1) resolver

/-! ## What every use keeps -/

/-- A use fills the tables, merges edges, learns a scope, or does several of these. -/
theorem Use.preserves (Keeps : Resolver → Prop) {subject : Subject}
    (filling : ∀ resolver, Keeps resolver → Keeps (after resolver (Resolver.populate subject)))
    (merging : ∀ extra, extra = subject.observed.found ∨ extra = subject.program.annotatedEdges →
      ∀ resolver, Keeps resolver →
        Keeps { resolver with edges := resolver.edges.merged subject.program extra })
    (learning : ∀ resolver scopes, Keeps resolver → Keeps { resolver with scopes })
    (use : Use) (resolver : Resolver) (kept : Keeps resolver) :
    Keeps (use.next resolver subject) := by
  cases use with
  | populate => exact filling resolver kept
  | loadObserved =>
    rw [next, after_loadObserved]
    exact merging _ (.inl rfl) resolver kept
  | loadAnnotated =>
    rw [next, after_loadAnnotated]
    exact merging _ (.inr rfl) resolver kept
  | callees site =>
    rw [next, after_callees]
    exact filling resolver kept
  | callers id =>
    rw [next, after_callers]
    exact filling resolver kept
  | isReachable source target context =>
    rw [next, after_isReachable, after_scopeOf]
    exact learning _ _ (filling resolver kept)
  | callTrace target context =>
    rw [next, after_callTrace, after_scopeOf]
    exact learning _ _ (filling resolver kept)

/-- What every use keeps, whatever it is about, a session keeps. -/
theorem preserves_run (Keeps : Resolver → Prop) {uses : List (Subject × Use)}
    (step : ∀ use ∈ uses, ∀ resolver, Keeps resolver → Keeps (use.2.next resolver use.1))
    {resolver : Resolver} (kept : Keeps resolver) : Keeps (resolver.run uses) := by
  induction uses generalizing resolver with
  | nil => exact kept
  | cons use uses ih =>
    exact ih (fun later member => step later (List.mem_cons_of_mem _ member))
      (step use List.mem_cons_self resolver kept)

theorem isConverse_run {resolver : Resolver} (converse : resolver.edges.IsConverse)
    (uses : List (Subject × Use)) : (resolver.run uses).edges.IsConverse := by
  refine preserves_run (fun resolver => resolver.edges.IsConverse) ?_ converse
  intro use _
  exact Use.preserves (fun resolver => resolver.edges.IsConverse)
    (fun _ converse => isConverse_after_populate converse use.1)
    (fun extra _ _ converse => converse.merged use.1.program extra)
    (fun _ _ converse => converse) use.2

/-! ## Direct calls -/

/-- A direct call of the program has no callee but its target, and has it once the tables are
filled. -/
def FitsDirect (program : Program) (resolver : Resolver) : Prop :=
  ∀ site callee, program.targetOf site = .direct callee →
    (∀ id ∈ resolver.edges.calleesOf site, id = callee) ∧
      (resolver.populated = true → callee ∈ resolver.edges.calleesOf site)

theorem fitsDirect_fresh (program : Program) (usesAnnotations : Bool)
    (strategy : Option Strategy) : FitsDirect program (fresh usesAnnotations strategy) := by
  intro site callee _
  constructor
  · intro id member
    have none : id ∉ (∅ : CallEdges).calleesOf site := by simp
    exact absurd member none
  · intro populated
    cases populated

namespace FitsDirect

variable {program : Program} {resolver : Resolver} (fits : FitsDirect program resolver)
include fits

theorem merged (extra : List CallEdge) :
    FitsDirect program { resolver with edges := resolver.edges.merged program extra } := by
  intro site callee direct
  obtain ⟨only, known⟩ := fits site callee direct
  have notIndirect : site ∉ program.indirectCalls := by
    simp [Program.mem_indirectCalls, direct]
  have same (id : ProcedureId) : id ∈ (resolver.edges.merged program extra).calleesOf site ↔
      id ∈ resolver.edges.calleesOf site := by
    rw [CallEdges.mem_calleesOf_merged]
    simp [notIndirect]
  exact ⟨fun id member => only id ((same id).mp member),
    fun populated => (same callee).mpr (known populated)⟩

theorem populate {subject : Subject} (about : subject.program = program) :
    FitsDirect program (after resolver (Resolver.populate subject)) := by
  cases populated : resolver.populated with
  | true => rwa [after_populate_of_populated resolver subject populated]
  | false =>
    rw [after_populate_of_not_populated resolver subject populated]
    subst about
    intro site callee direct
    have notIndirect : site ∉ subject.program.indirectCalls := by
      simp [Program.mem_indirectCalls, direct]
    show (∀ id ∈ ((resolver.collected subject).decided _ _).calleesOf site, id = callee) ∧
      (true = true → callee ∈ ((resolver.collected subject).decided _ _).calleesOf site)
    rw [CallEdges.calleesOf_decided, if_neg notIndirect]
    constructor
    · intro id member
      rcases (mem_calleesOf_collected resolver subject).mp member with target | ⟨indirect, _⟩ | old
      · rw [direct] at target
        cases target
        rfl
      · exact absurd indirect notIndirect
      · exact (fits site callee direct).1 id old
    · intro _
      exact (mem_calleesOf_collected resolver subject).mpr (.inl direct)

theorem run {uses : List (Subject × Use)} (about : ∀ use ∈ uses, use.1.program = program) :
    FitsDirect program (resolver.run uses) := by
  refine preserves_run (FitsDirect program) ?_ fits
  intro use member
  have same := about use member
  refine Use.preserves (FitsDirect program) (fun _ fits => fits.populate same) ?_
    (fun _ _ fits => fits) use.2
  intro extra _ resolver fits
  rw [same]
  exact fits.merged extra

end FitsDirect

/-! ## Answers -/

/-- A callee of a direct call is its target, which `callees` gives without a look at the edges. -/
theorem mem_answer_callees {program : Program} {resolver : Resolver}
    (fits : FitsDirect program resolver) (populated : resolver.populated = true)
    {subject : Subject} (about : subject.program = program) {site : CallSite} {id : ProcedureId} :
    id ∈ answer resolver (callees subject site) ↔ id ∈ resolver.edges.calleesOf site := by
  subst about
  rw [answer_callees, after_populate_of_populated resolver subject populated]
  cases target : subject.program.targetOf site with
  | direct callee =>
    obtain ⟨only, known⟩ := fits site callee target
    constructor
    · intro member
      rw [List.mem_singleton.mp member]
      exact known populated
    · intro member
      exact List.mem_singleton.mpr (only id member)
  | indirect => exact Std.ExtTreeSet.mem_toList

theorem mem_answer_callers {resolver : Resolver} (populated : resolver.populated = true)
    {subject : Subject} {site : CallSite} {id : ProcedureId} :
    site ∈ answer resolver (callers subject id) ↔ site ∈ resolver.edges.callersOf id := by
  rw [answer_callers, after_populate_of_populated resolver subject populated]
  exact Std.ExtTreeSet.mem_toList

/-- Whatever a session does, both directions of the edges agree. If the program stays the same from
the first use on, so do the callees and callers that the session is told. -/
theorem run_fresh_converse (usesAnnotations : Bool) (strategy : Option Strategy)
    (uses : List (Subject × Use)) :
    let reached := (fresh usesAnnotations strategy).run uses
    (∀ site id, id ∈ reached.edges.calleesOf site ↔ site ∈ reached.edges.callersOf id) ∧
    reached.edges.size =
      (reached.edges.callers.bySource.toList.map fun entry => entry.2.size).sum ∧
    ∀ program, (∀ use ∈ uses, use.1.program = program) → reached.populated = true →
      ∀ subject : Subject, subject.program = program → ∀ site id,
        id ∈ answer reached (callees subject site) ↔
          site ∈ answer reached (callers subject id) := by
  intro reached
  have converse : reached.edges.IsConverse :=
    isConverse_run CallEdges.isConverse_empty uses
  refine ⟨converse, converse.size_eq, ?_⟩
  intro program same populated subject about site id
  have fits : FitsDirect program reached :=
    (fitsDirect_fresh program usesAnnotations strategy).run same
  rw [mem_answer_callees fits populated about, mem_answer_callers populated]
  exact converse site id

/-- Annotations are merged before anything else, and the strategy then drops one of them. -/
theorem run_fresh_converse_early_load :
    let procedures : Array Procedure := #[
      { name := "main", arity := none, calls := #[⟨.direct ⟨1⟩, []⟩, ⟨.indirect, []⟩] },
      { name := "helper", arity := none }]
    let program := Program.annotate { procedures } ⟨⟨0⟩, 1⟩ [⟨1⟩, ⟨0⟩]
    let traced : Subject :=
      { program, partition := {}, observed := .edges "trace" (pure [(⟨⟨0⟩, 0⟩, ⟨0⟩)]) }
    let untraced : Subject := { program, partition := {} }
    let uses := [(traced, .loadAnnotated), (untraced, .populate), (traced, .loadObserved)]
    let reached := (fresh true (some Strategy.firstFound)).run uses
    (∀ use ∈ uses, use.1.program = program) ∧ reached.populated = true ∧
      ∀ site id, id ∈ answer reached (callees traced site) ↔
        site ∈ answer reached (callers traced id) := by
  intro procedures program traced untraced uses reached
  have same : ∀ use ∈ uses, use.1.program = program := by
    simp [uses, traced, untraced]
  have populated : reached.populated = true := by
    simp only [reached, uses, run, List.foldl_cons, List.foldl_nil, Use.next, after_loadObserved,
      populated_after_populate]
  exact ⟨same, populated, (run_fresh_converse true (some Strategy.firstFound) uses).2.2 program
    same populated traced rfl⟩

end Resolver

end SandboxRpc
