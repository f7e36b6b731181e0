import SandboxRpc.Proofs.CallGraph.Reachability

/-!
# More observed edges

Without a strategy nothing is ever taken away from what is found for a call. So a resolver that is
shown more edges knows all callees and callers that it would know otherwise, and reaches whatever it
would reach. A trace may become another one, but not a longer one: the old one is still a chain, and
traces are shortest chains (`callTrace_mono`).

`mem_filledEdges_run` says which edges a session without a strategy comes to, loads by hand
included, and `run_observing_more` compares two sessions.
-/

namespace SandboxRpc

open Inquiry

/-! ## Searches over more edges -/

namespace CallEdges

variable {edges more : CallEdges}
  (included : ∀ site, ∀ id ∈ edges.calleesOf site, id ∈ more.calleesOf site)
include included

theorem invokes_mono (scope : CallSiteSet) (site : CallSite) (id : ProcedureId)
    (invokes : edges.Invokes scope site id) : more.Invokes scope site id :=
  ⟨invokes.1, included site id invokes.2⟩

variable {program : Program} {scope : CallSiteSet}

theorem isReachable_mono
    (present : ∀ site, ∀ id ∈ more.calleesOf site, program.hasCall site)
    {source target : ProcedureId}
    (reached : edges.isReachable program scope source target = true) :
    more.isReachable program scope source target = true := by
  have present' (site : CallSite) (id : ProcedureId) (known : id ∈ edges.calleesOf site) :
      program.hasCall site := present site id (included site id known)
  rw [isReachable_iff present'] at reached
  obtain ⟨chain, nonempty, leads⟩ := reached
  apply (isReachable_iff present).mpr
  exact ⟨chain, nonempty, leads.mono (invokes_mono included scope)⟩

theorem callTrace_mono (converse : edges.IsConverse) (converse' : more.IsConverse)
    {entryPoints : List ProcedureId} {target : ProcedureId}
    (traced : edges.callTrace scope entryPoints target ≠ []) :
    more.callTrace scope entryPoints target ≠ [] ∧
      (more.callTrace scope entryPoints target).length ≤
        (edges.callTrace scope entryPoints target).length := by
  have isTrace := isTrace_callTrace converse traced
  obtain ⟨entry, atEntry, leads⟩ := isTrace.leads
  have still := leads.mono (invokes_mono included scope)
  have traced' : more.callTrace scope entryPoints target ≠ [] := by
    rw [ne_eq, callTrace_eq_nil_iff converse']
    rintro (inside | unreached)
    · exact isTrace.outside inside
    · exact unreached ⟨entry, atEntry, _, still⟩
  -- The old trace need not be the new one, but no shortest chain is longer than it.
  have shortest := (isTrace_callTrace converse' traced').shortest entry atEntry _ still
  rw [List.length_reverse] at shortest
  exact ⟨traced', shortest⟩

end CallEdges

/-! ## Sessions without a strategy -/

namespace Resolver

/-- The edges that a use loads by hand. -/
def Use.loads (subject : Subject) : Use → List CallEdge
  | loadObserved => subject.observed.found
  | loadAnnotated => subject.program.annotatedEdges
  | _ => []

section Session

variable {resolver : Resolver} {subject : Subject} {site : CallSite} {id : ProcedureId}

theorem strategy_next (use : Use) : (use.next resolver subject).strategy = resolver.strategy := by
  refine use.preserves (fun reached => reached.strategy = resolver.strategy) ?_ ?_ ?_ resolver rfl
  · intro reached same
    rw [after_populate]
    exact same
  · exact fun _ _ _ same => same
  · exact fun _ _ same => same

variable (undecided : resolver.strategy = none)
include undecided

theorem mem_filledEdges_merged (extra : List CallEdge) :
    id ∈ (({ resolver with edges := resolver.edges.merged subject.program extra } : Resolver)
        |>.filledEdges subject).calleesOf site ↔
      (site, id) ∈ extra ∧ site ∈ subject.program.indirectCalls ∨
        id ∈ (resolver.filledEdges subject).calleesOf site := by
  cases populated : resolver.populated with
  | true => simp only [filledEdges, populated, ↓reduceIte, CallEdges.mem_calleesOf_merged]
  | false =>
    simp only [filledEdges, populated, Bool.false_eq_true, ↓reduceIte, undecided,
      CallEdges.decided, mem_calleesOf_collected, CallEdges.mem_calleesOf_merged]
    grind

/-- What a use loads by hand is all that it adds, and it takes nothing away. -/
theorem mem_filledEdges_next (use : Use) :
    id ∈ ((use.next resolver subject).filledEdges subject).calleesOf site ↔
      (site, id) ∈ use.loads subject ∧ site ∈ subject.program.indirectCalls ∨
        id ∈ (resolver.filledEdges subject).calleesOf site := by
  cases use with
  | loadObserved =>
    rw [Use.next, after_loadObserved]
    exact mem_filledEdges_merged undecided _
  | loadAnnotated =>
    rw [Use.next, after_loadAnnotated]
    exact mem_filledEdges_merged undecided _
  | populate =>
    rw [Use.next, (Steady.populate.kept resolver).edges]
    simp [Use.loads]
  | callees asked =>
    rw [Use.next, ((Steady.callees asked).kept resolver).edges]
    simp [Use.loads]
  | callers asked =>
    rw [Use.next, ((Steady.callers asked).kept resolver).edges]
    simp [Use.loads]
  | isReachable source target context =>
    rw [Use.next, ((Steady.isReachable source target context).kept resolver).edges]
    simp [Use.loads]
  | callTrace target context =>
    rw [Use.next, ((Steady.callTrace target context).kept resolver).edges]
    simp [Use.loads]

theorem mem_filledEdges_run (uses : List Use) :
    id ∈ ((resolver.run (uses.map (subject, ·))).filledEdges subject).calleesOf site ↔
      (∃ use ∈ uses, (site, id) ∈ use.loads subject) ∧ site ∈ subject.program.indirectCalls ∨
        id ∈ (resolver.filledEdges subject).calleesOf site := by
  induction uses generalizing resolver with
  | nil => simp [run]
  | cons use uses ih =>
    have undecided' : (use.next resolver subject).strategy = none := by
      rw [strategy_next, undecided]
    have rest := ih undecided'
    rw [mem_filledEdges_next undecided] at rest
    rw [List.map_cons, run, List.foldl_cons, ← run, rest]
    simp only [List.mem_cons]
    grind

end Session

theorem mem_filledEdges_fresh {subject : Subject} {usesAnnotations : Bool} {site : CallSite}
    {id : ProcedureId} :
    id ∈ ((fresh usesAnnotations none).filledEdges subject).calleesOf site ↔
      subject.program.targetOf site = .direct id ∨
        site ∈ subject.program.indirectCalls ∧ id ∈ subject.foundTargets usesAnnotations site := by
  have nothing : id ∉ (fresh usesAnnotations none).edges.calleesOf site := by
    show id ∉ (∅ : CallEdges).calleesOf site
    simp
  show id ∈ ((fresh usesAnnotations none).collected subject).calleesOf site ↔ _
  rw [mem_calleesOf_collected]
  simp only [nothing, or_false]
  rfl

/-- What the tables of a session hold once they are filled: the direct calls, what was observed, and
the annotations if they count or were loaded by hand. -/
theorem mem_filledEdges_runOn (program : Program) (partition : Partition) (usesAnnotations : Bool)
    (observed : Observation) (uses : List Use) {site : CallSite} {id : ProcedureId} :
    id ∈ (((fresh usesAnnotations none).runOn program partition
        (uses.map (observed, ·))).filledEdges { program, partition, observed }).calleesOf site ↔
      program.targetOf site = .direct id ∨
        site ∈ program.indirectCalls ∧ ((site, id) ∈ observed.found ∨
          (usesAnnotations = true ∨ .loadAnnotated ∈ uses) ∧
            (site, id) ∈ program.annotatedEdges) := by
  let subject : Subject := { program, partition, observed }
  have same : (fresh usesAnnotations none).runOn program partition (uses.map (observed, ·)) =
      (fresh usesAnnotations none).run (uses.map (subject, ·)) := by
    simp [runOn, subject, Function.comp_def]
  have byHand : (∃ use ∈ uses, (site, id) ∈ use.loads subject) ↔
      .loadObserved ∈ uses ∧ (site, id) ∈ observed.found ∨
        .loadAnnotated ∈ uses ∧ (site, id) ∈ program.annotatedEdges := by
    constructor
    · rintro ⟨use, used, loaded⟩
      cases use with
      | loadObserved => exact .inl ⟨used, loaded⟩
      | loadAnnotated => exact .inr ⟨used, loaded⟩
      | _ => cases loaded
    · rintro (⟨used, loaded⟩ | ⟨used, loaded⟩)
      · exact ⟨.loadObserved, used, loaded⟩
      · exact ⟨.loadAnnotated, used, loaded⟩
  rw [same, mem_filledEdges_run rfl, mem_filledEdges_fresh, Subject.mem_foundTargets, byHand]
  grind

/-! ## Two sessions -/

/-- Two sessions without a strategy are about one program and partition, and the second one is shown
all edges that the first one is shown. Then it answers with all that the first one does, and with
traces that are no longer, whatever the two do by the way; only annotations must not be loaded by
hand in the first one alone. -/
theorem run_observing_more (program : Program) (partition : Partition) (usesAnnotations : Bool)
    (fewer more : Observation) (included : fewer.found ⊆ more.found) (uses uses' : List Use)
    (loads : .loadAnnotated ∈ uses → .loadAnnotated ∈ uses') :
    let subject : Subject := { program, partition, observed := fewer }
    let subject' : Subject := { program, partition, observed := more }
    let reached := (fresh usesAnnotations none).runOn program partition (uses.map (fewer, ·))
    let reached' := (fresh usesAnnotations none).runOn program partition (uses'.map (more, ·))
    (∀ site, answer reached (callees subject site) ⊆ answer reached' (callees subject' site)) ∧
    (∀ id, answer reached (callers subject id) ⊆ answer reached' (callers subject' id)) ∧
    (∀ source target context, answer reached (isReachable subject source target context) = true →
      answer reached' (isReachable subject' source target context) = true) ∧
    ∀ target context,
      let trace := answer reached (callTrace subject target context)
      let trace' := answer reached' (callTrace subject' target context)
      trace ≠ [] → trace' ≠ [] ∧ trace'.length ≤ trace.length := by
  intro subject subject' reached reached'
  have goesBy : reached.GoesBy subject (reached.filledEdges subject) :=
    goesBy_filledEdges program partition usesAnnotations none (uses.map (fewer, ·)) fewer
  have goesBy' : reached'.GoesBy subject' (reached'.filledEdges subject') :=
    goesBy_filledEdges program partition usesAnnotations none (uses'.map (more, ·)) more
  have edges (site : CallSite) (id : ProcedureId)
      (known : id ∈ (reached.filledEdges subject).calleesOf site) :
      id ∈ (reached'.filledEdges subject').calleesOf site := by
    rw [mem_filledEdges_runOn] at known ⊢
    rcases known with direct | ⟨indirect, observed | ⟨counts, annotated⟩⟩
    · exact .inl direct
    · exact .inr ⟨indirect, .inl (included observed)⟩
    · exact .inr ⟨indirect, .inr ⟨counts.imp_right loads, annotated⟩⟩
  refine ⟨?_, ?_, ?_, ?_⟩
  · intro site id callee
    rw [goesBy.callees] at callee
    rw [goesBy'.callees]
    exact edges site id callee
  · intro id site caller
    rw [answer_callers, after_populate, Std.ExtTreeSet.mem_toList] at caller ⊢
    apply (goesBy'.converse site id).mp
    exact edges site id ((goesBy.converse site id).mpr caller)
  · intro source target context arrived
    rw [goesBy.isReachable] at arrived
    rw [goesBy'.isReachable]
    exact CallEdges.isReachable_mono edges goesBy'.present arrived
  · intro target context trace trace'
    rw [show trace = _ from goesBy.callTrace target context,
      show trace' = _ from goesBy'.callTrace target context]
    exact CallEdges.callTrace_mono edges goesBy.converse goesBy'.converse

/-- The trace to `work` leads through `step` as long as only that is observed, and gets shorter when
it is seen that `main` also calls `work` itself. -/
theorem run_observing_more_shortcut :
    let program : Program := { procedures := #[
      { name := "main", arity := none, calls := #[⟨.direct ⟨1⟩, []⟩, ⟨.indirect, []⟩] },
      { name := "step", arity := none, calls := #[⟨.indirect, []⟩] },
      { name := "work", arity := none }] }
    let partition : Partition := { privileged := [⟨0⟩, ⟨1⟩, ⟨2⟩], privilegedEntryPoints := [⟨0⟩] }
    let fewer : Observation := .edges "trace" (pure [(⟨⟨1⟩, 0⟩, ⟨2⟩)])
    let more : Observation := .edges "trace" (pure [(⟨⟨0⟩, 1⟩, ⟨2⟩), (⟨⟨1⟩, 0⟩, ⟨2⟩)])
    let reached := (fresh true none).runOn program partition [(fewer, .loadObserved)]
    let reached' := (fresh true none).runOn program partition [(more, .callers ⟨2⟩)]
    let trace := answer reached
      (callTrace { program, partition, observed := fewer } ⟨2⟩ .privileged)
    let trace' := answer reached'
      (callTrace { program, partition, observed := more } ⟨2⟩ .privileged)
    fewer.found ⊆ more.found ∧ trace = [⟨⟨1⟩, 0⟩, ⟨⟨0⟩, 0⟩] ∧ trace' = [⟨⟨0⟩, 1⟩] ∧
      trace' ≠ [] ∧ trace'.length ≤ trace.length := by
  intro program partition fewer more reached reached' trace trace'
  have included : fewer.found ⊆ more.found := by simp [fewer, more, Observation.found]
  have found : trace = [⟨⟨1⟩, 0⟩, ⟨⟨0⟩, 0⟩] := by decide +revert +kernel
  have found' : trace' = [⟨⟨0⟩, 1⟩] := by decide +revert +kernel
  have traced : trace ≠ [] := by
    rw [found]
    exact List.cons_ne_nil _ _
  exact ⟨included, found, found', (run_observing_more program partition true fewer more included
    [.loadObserved] [.callers ⟨2⟩] (by simp)).2.2.2 ⟨2⟩ .privileged traced⟩

end Resolver

end SandboxRpc
