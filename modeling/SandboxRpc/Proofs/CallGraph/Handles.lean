import SandboxRpc.Proofs.CallGraph.BreadthFirst
import SandboxRpc.Proofs.CallGraph.Observation
import SandboxRpc.Proofs.CallGraph.Session
import SandboxRpc.Proofs.CallGraph.Transparency
import SandboxRpc.Proofs.Program.Handles

/-!
# The handles that a resolver knows

A resolver for a closed program hears of good handles only: direct calls and annotations are the
program's own, and what a trace shows is looked up by name. No session brings in any others
(`within_run`), so call traces consist of calls of the program (`mem_answer_callTrace`).
-/

namespace SandboxRpc

open Inquiry

/-! ## Call traces -/

theorem CallEdges.Within.mem_callTrace {edges : CallEdges} {program : Program}
    {ids : ProcedureId → Prop} (within : edges.Within program ids) {scope : CallSiteSet}
    {entryPoints : List ProcedureId} {target : ProcedureId} {site : CallSite}
    (member : site ∈ edges.callTrace scope entryPoints target) : program.hasCall site := by
  have steps (id : ProcedureId) : ∀ step ∈ edges.stepsUp scope id, program.hasCall step.site := by
    intro step member
    obtain ⟨site, known, rfl⟩ := List.mem_map.mp member
    exact within.callers.targets id site
      (Std.ExtTreeSet.mem_toList.mp (List.mem_filter.mp known).1)
  rw [callTrace] at member
  split at member
  · rename_i visit found
    refine forall_mem_explore (fun visit => ∀ site ∈ visit.path, program.hasCall site) ?_ ?_ visit
      (List.mem_of_find?_eq_some found) site (List.mem_reverse.mp member)
    · -- One more step in front of the path so far.
      exact fun _ here step next => List.forall_mem_cons.mpr ⟨steps _ step next, here⟩
    · simp
  · cases member

/-! ## What a resolver is supplied with -/

theorem Program.IsClosed.supplies {subject : Subject} (closed : subject.program.IsClosed)
    (isOf : subject.observed.IsOf subject.program) :
    subject.Supplies (· ∈ subject.program.procedureIds) where
  direct := closed.targets
  observed _ shown := (isOf.mem_found closed.indexed shown).2
  annotated _ member := (closed.annotatedEdges member).2

theorem Program.IsClosed.staysIn_addressTaken {program : Program} (closed : program.IsClosed) :
    Strategy.addressTaken.StaysIn program (· ∈ program.procedureIds) := by
  intro site found declared id member
  rw [Strategy.addressTaken] at member
  split at member
  · rw [Std.ExtTreeSet.mem_filter] at member
    exact closed.addressTaken member.1
  · exact declared id member

/-! ## Sessions -/

namespace Resolver

variable {program : Program} {ids : ProcedureId → Prop} {resolver : Resolver}

/-- No session leads out of what the resolver is supplied with. -/
theorem within_run (stays : ∀ chosen ∈ resolver.strategy, chosen.StaysIn program ids)
    (within : resolver.edges.Within program ids) {uses : List (Subject × Use)}
    (supplies : ∀ use ∈ uses, use.1.program = program ∧ use.1.Supplies ids) :
    (resolver.run uses).strategy = resolver.strategy ∧
      (resolver.run uses).edges.Within program ids := by
  refine preserves_run
    (fun reached => reached.strategy = resolver.strategy ∧ reached.edges.Within program ids)
    ?_ ⟨rfl, within⟩
  intro use member
  obtain ⟨rfl, supplied⟩ := supplies use member
  refine Use.preserves _ ?_ ?_ (fun _ _ kept => kept) use.2
  · rintro reached ⟨same, within⟩
    refine ⟨?_, within_after_populate supplied within (same ▸ stays)⟩
    rw [after_populate]
    exact same
  · rintro extra (rfl | rfl) reached ⟨same, within⟩
    · exact ⟨same, within.merged supplied.observed⟩
    · exact ⟨same, within.merged supplied.annotated⟩

theorem mem_answer_callTrace {subject : Subject} (supplies : subject.Supplies ids)
    (stays : ∀ chosen ∈ resolver.strategy, chosen.StaysIn subject.program ids)
    (within : resolver.edges.Within subject.program ids) {target : ProcedureId}
    {context : Context} {site : CallSite}
    (member : site ∈ answer resolver (callTrace subject target context)) :
    subject.program.hasCall site := by
  rw [answer_callTrace] at member
  have filled := within_after_populate supplies within stays
  rw [after_populate] at filled
  exact filled.mem_callTrace member

end Resolver

end SandboxRpc
