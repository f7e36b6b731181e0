import SandboxRpc.Proofs.CallGraph.Inquiry

/-!
# Where edges lead

Edges are kept for call sites of the program only, whatever is merged or decided. Which procedures
they lead to depends on what a resolver is supplied with: if all of these are of some kind, and the
strategy brings in no others, no edge leads anywhere else. `CallEdges.Within` says so of both
directions, entries without an edge included.
-/

namespace SandboxRpc

open Inquiry

/-! ## Links -/

namespace Links

variable {α β : Type} [Ord α] [Ord β] [Std.TransOrd α] [Std.TransOrd β]

/-- Sources with an entry are of one kind, and targets of another. -/
structure Within (isSource : α → Prop) (isTarget : β → Prop) (links : Links α β) : Prop where
  sources : ∀ source ∈ links.bySource, isSource source
  targets : ∀ source, ∀ target ∈ links.targets source, isTarget target

theorem within_empty {isSource : α → Prop} {isTarget : β → Prop} :
    (∅ : Links α β).Within isSource isTarget where
  sources _ member := absurd member Std.ExtTreeMap.not_mem_empty
  targets source _ member := by
    rw [targets_empty] at member
    exact absurd member Std.ExtTreeSet.not_mem_empty

namespace Within

variable [Std.LawfulEqOrd α] [Std.LawfulEqOrd β] {links : Links α β} {isSource : α → Prop}
  {isTarget : β → Prop} (within : links.Within isSource isTarget)
include within

theorem insert {source : α} {target : β} (atSource : isSource source) (atTarget : isTarget target) :
    (links.insert source target).Within isSource isTarget where
  sources other member := by
    rcases mem_bySource_insert.mp member with rfl | known
    · exact atSource
    · exact within.sources other known
  targets other id member := by
    rcases mem_targets_insert.mp member with ⟨_, rfl⟩ | known
    · exact atTarget
    · exact within.targets other id known

theorem erase (source : α) (target : β) :
    (links.erase source target).Within isSource isTarget where
  sources other member := within.sources other (mem_bySource_erase.mp member)
  targets other id member := within.targets other id (mem_targets_erase.mp member).1

omit [Std.LawfulEqOrd β] in
theorem clear (source : α) : (links.clear source).Within isSource isTarget where
  sources other member := within.sources other (mem_bySource_clear.mp member).2
  targets other id member := within.targets other id (mem_targets_clear.mp member).1

end Within

end Links

/-! ## Edges -/

namespace CallEdges

variable {edges : CallEdges} {program : Program} {ids : ProcedureId → Prop}

/-- Edges are between calls of the program and procedures of one kind. -/
structure Within (program : Program) (ids : ProcedureId → Prop) (edges : CallEdges) : Prop where
  callees : edges.callees.Within (program.hasCall ·) ids
  callers : edges.callers.Within ids (program.hasCall ·)

theorem within_empty : (∅ : CallEdges).Within program ids :=
  ⟨Links.within_empty, Links.within_empty⟩

namespace Within

variable (within : edges.Within program ids)
include within

theorem insertAll {new : List CallEdge}
    (fitting : ∀ edge ∈ new, program.hasCall edge.1 ∧ ids edge.2) :
    (edges.insertAll new).Within program ids := by
  induction new generalizing edges with
  | nil => exact within
  | cons edge new ih =>
    obtain ⟨present, fits⟩ := fitting edge List.mem_cons_self
    exact ih ⟨within.callees.insert present fits, within.callers.insert fits present⟩
      fun later member => fitting later (List.mem_cons_of_mem _ member)

theorem merged {extra : List CallEdge} (fitting : ∀ edge ∈ extra, ids edge.2) :
    (edges.merged program extra).Within program ids := by
  refine within.insertAll fun edge member => ?_
  rw [List.mem_filter, decide_eq_true_eq] at member
  exact ⟨member.2.1, fitting edge member.1⟩

theorem eraseSite (site : CallSite) : (edges.eraseSite site).Within program ids where
  callees := within.callees.clear site
  callers := by
    have erased (found : List ProcedureId) {callers : Links ProcedureId CallSite}
        (within : callers.Within ids (program.hasCall ·)) :
        (found.foldl (fun callers callee => callers.erase callee site) callers).Within ids
          (program.hasCall ·) := by
      induction found generalizing callers with
      | nil => exact within
      | cons callee found ih => exact ih (within.erase callee site)
    exact erased _ within.callers

theorem replace {site : CallSite} {targets : ProcedureSet} (present : program.hasCall site)
    (fitting : ∀ id ∈ targets, ids id) : (edges.replace site targets).Within program ids := by
  refine (within.eraseSite site).insertAll fun edge member => ?_
  obtain ⟨id, target, rfl⟩ := List.mem_map.mp member
  exact ⟨present, fitting id (Std.ExtTreeSet.mem_toList.mp target)⟩

theorem replaceAll {entries : List (CallSite × ProcedureSet)}
    (fitting : ∀ entry ∈ entries, program.hasCall entry.1 ∧ ∀ id ∈ entry.2, ids id) :
    (entries.foldl (fun edges entry => edges.replace entry.1 entry.2) edges).Within program
      ids := by
  induction entries generalizing edges with
  | nil => exact within
  | cons entry entries ih =>
    obtain ⟨present, fits⟩ := fitting entry List.mem_cons_self
    exact ih (within.replace present fits)
      fun later member => fitting later (List.mem_cons_of_mem _ member)

end Within

end CallEdges

/-- A strategy brings in no procedures of another kind than those found for a call. -/
def Strategy.StaysIn (program : Program) (ids : ProcedureId → Prop) (strategy : Strategy) : Prop :=
  ∀ site found, (∀ id ∈ found, ids id) → ∀ id ∈ strategy program site found, ids id

theorem CallEdges.Within.decided {edges : CallEdges} {program : Program} {ids : ProcedureId → Prop}
    (within : edges.Within program ids) {strategy : Option Strategy}
    (stays : ∀ chosen ∈ strategy, chosen.StaysIn program ids) :
    (edges.decided program strategy).Within program ids := by
  cases strategy with
  | none => exact within
  | some strategy =>
    refine within.replaceAll fun entry member => ?_
    obtain ⟨indirect, value, _⟩ := mem_refinements.mp member
    rw [Program.indirectCalls, List.mem_filter, Program.mem_callSites] at indirect
    rw [value]
    exact ⟨indirect.1, stays strategy rfl entry.1 _ (within.callees.targets entry.1)⟩

end SandboxRpc
