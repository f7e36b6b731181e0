import SandboxRpc.Proofs.CallGraph.Ascent
import SandboxRpc.Proofs.CallGraph.Descent
import SandboxRpc.Proofs.CallGraph.Transparency

/-!
# The searches end

What a resolver has in its tables may be out of date, lead round in circles and name procedures that
the program does not have. The searches come to an end nevertheless, `Descent` for reachability and
`Ascent` for traces, and with the answers that the resolver gives.
-/

namespace SandboxRpc

open Inquiry

namespace Resolver

/-- No procedure is put on the worklist of a search twice, and the list is taken from at most once
for the procedure where the search starts and each callee or caller in the tables. On the way up,
the pointers lead from every caller to the procedure that the search is about, which has none: they
pass no procedure twice, and there are at least as many of them as are passed. So a trace that is
being rebuilt ends there. -/
theorem searches_end (resolver : Resolver) (subject : Subject) (source target : ProcedureId)
    (context : Context) :
    let edges := resolver.filledEdges subject
    let scope := resolver.knownScope subject context
    let entryPoints := subject.partition.entryPointsOf context
    let down count :=
      (Descent.next (edges.stepsDown subject.program scope) target)^[count] (.start source)
    let up count :=
      (Ascent.next (edges.stepsUp scope) entryPoints)^[count] (.start entryPoints target)
    ((∃ count, (down count).answer? =
        some (answer resolver (isReachable subject source target context))) ∧
      ∀ count, (down count).list.entered.Nodup ∧
        (down count).list.taken.length ≤ (edges.allCallees.insert source).size) ∧
    (∃ count, (up count).answer? = some (answer resolver (callTrace subject target context))) ∧
    ∀ count, (up count).list.entered.Nodup ∧
      (up count).list.taken.length ≤ (edges.allCallers.insert target).size ∧
      target ∉ (up count).toward ∧
      (∀ caller ∈ (up count).toward, ∃ chain,
        Leads (up count).toward.Points caller chain target ∧
        chain.length ≤ (up count).toward.size ∧
        (chain.map CallSite.caller ++ [target]).Nodup) ∧
      ∀ id passed, (up count).phase = .rebuilding id passed →
        ∃ more ≤ (up count).toward.size, ∃ chain,
          (up (count + more)).phase = .rebuilding target chain ∧
          (up (count + more + 1)).answer? = some chain.reverse := by
  intro edges scope entryPoints down up
  rw [answer_isReachable, answer_callTrace]
  refine ⟨⟨Descent.endsWith_start edges subject.program scope, fun count => ?_⟩,
    Ascent.endsWith_start edges scope, fun count => ?_⟩
  · obtain ⟨orderly, -⟩ := Descent.isSound_iterate edges subject.program scope count
    exact ⟨orderly.nodup, orderly.length_taken_le⟩
  have sound : (up count).IsSound target edges.allCallers :=
    Ascent.isSound_iterate edges scope count
  have lead : (up count).toward.AllLeadTo target (up count).list.seen := sound.toward
  refine ⟨sound.list.nodup, sound.list.length_taken_le, lead.ends, ?_, ?_⟩
  · intro caller known
    obtain ⟨chain, leads⟩ := lead.leads caller ((lead.mem_seen caller).mpr (.inr known))
    exact ⟨chain, leads, Pointers.length_le_size lead.ends leads, Pointers.nodup lead.ends leads⟩
  · intro id passed phase
    obtain ⟨more, few, chain, there, ended⟩ := sound.rebuilds phase
    have later (more : Nat) : up (count + more) =
        (Ascent.next (edges.stepsUp scope) entryPoints)^[more] (up count) := by
      rw [Nat.add_comm]
      exact Function.iterate_add_apply _ more count _
    refine ⟨more, few, chain, ?_, ?_⟩
    · rw [later]
      exact there
    · rw [Nat.add_assoc, later, Ascent.answer?, ended]

/-- The tables have a cycle with a call of a procedure to itself in it, and there are calls of a
procedure that the program does not have. -/
theorem searches_end_on_cycle :
    let program : Program := { procedures := #[
      { name := "main", arity := none, calls := #[⟨.indirect, []⟩] },
      { name := "step", arity := none, calls := #[⟨.indirect, []⟩, ⟨.indirect, []⟩] },
      { name := "work", arity := none, calls := #[⟨.indirect, []⟩] }] }
    let sites : List CallSite := [⟨⟨0⟩, 0⟩, ⟨⟨1⟩, 0⟩, ⟨⟨1⟩, 1⟩, ⟨⟨2⟩, 0⟩, ⟨⟨7⟩, 0⟩]
    let resolver : Resolver := {
      populated := true
      edges := CallEdges.insertAll ∅ (sites.zip [⟨1⟩, ⟨1⟩, ⟨2⟩, ⟨1⟩, ⟨2⟩])
      scopes := (∅ : Std.ExtTreeMap Context CallSiteSet).insert .privileged (.ofList sites) }
    let subject : Subject := { program, partition := { privilegedEntryPoints := [⟨0⟩] } }
    let work : ProcedureId := ⟨2⟩
    let unknown : ProcedureId := ⟨7⟩
    let up count := (Ascent.next ((resolver.filledEdges subject).stepsUp
      (resolver.knownScope subject .privileged)) [⟨0⟩])^[count] (.start [⟨0⟩] work)
    (unknown ∈ (up 5).toward ∧ ∃ chain, Leads (up 5).toward.Points unknown chain work ∧
      chain.length ≤ (up 5).toward.size ∧ (chain.map CallSite.caller ++ [work]).Nodup) ∧
    (up 5).phase = .rebuilding ⟨0⟩ [] ∧ ∃ more ≤ (up 5).toward.size, ∃ chain,
      (up (5 + more)).phase = .rebuilding work chain ∧
      (up (5 + more + 1)).answer? = some chain.reverse := by
  intro program sites resolver subject work unknown up
  have known : unknown ∈ (up 5).toward := by decide +revert +kernel
  have phase : (up 5).phase = .rebuilding ⟨0⟩ [] := by decide +revert +kernel
  obtain ⟨-, -, -, lead, rebuilds⟩ :=
    (searches_end resolver subject unknown work .privileged).2.2 5
  exact ⟨⟨known, lead _ known⟩, phase, rebuilds _ _ phase⟩

end Resolver

end SandboxRpc
