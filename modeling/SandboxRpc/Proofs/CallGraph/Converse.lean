import Mathlib.Algebra.GroupWithZero.Nat
import SandboxRpc.Proofs.CallGraph.Inquiry

/-!
# The two directions of the call edges

`CallEdges` keeps every edge twice, by call site and by procedure. `CallEdges.IsConverse` says that
both directions tell the same edges. It holds of no edges at all, and every change keeps it:

- `IsConverse.insert` and `IsConverse.insertAll`, since an edge is added to both directions;
- `IsConverse.replace`, which first takes away what the forward direction knows of a call site. It
  is only because the directions agree that nothing is left over in the other one.

With it the edges may be counted either way round: `IsConverse.size_eq`.
-/

namespace SandboxRpc

/-- There are as many links as all sets of targets together have members. -/
theorem Links.length_toList {α β : Type} [Ord α] [Ord β] [Std.TransOrd α] [Std.TransOrd β]
    (links : Links α β) :
    links.toList.length = (links.bySource.toList.map fun entry => entry.2.size).sum := by
  rw [toList, List.length_flatMap]
  simp only [List.length_map, Std.ExtTreeSet.length_toList]

namespace CallEdges

/-- Both directions tell the same edges. -/
def IsConverse (edges : CallEdges) : Prop :=
  ∀ site id, id ∈ edges.calleesOf site ↔ site ∈ edges.callersOf id

theorem isConverse_empty : (∅ : CallEdges).IsConverse := by
  intro site id
  rw [calleesOf_empty, callersOf_empty]
  simp

namespace IsConverse

variable {edges : CallEdges} (converse : edges.IsConverse)
include converse

/-! ## Changes -/

theorem insertAll (new : List CallEdge) : (edges.insertAll new).IsConverse := by
  intro site id
  rw [mem_calleesOf_insertAll, mem_callersOf_insertAll, converse site id]

theorem eraseSite (site : CallSite) : (edges.eraseSite site).IsConverse := by
  intro other id
  rw [mem_calleesOf_eraseSite, mem_callersOf_eraseSite, ← converse other id]
  constructor
  · rintro ⟨known, different⟩
    exact ⟨known, fun ⟨_, same⟩ => different same⟩
  · rintro ⟨known, kept⟩
    -- Were it an edge of the erased site, the forward direction would know it.
    exact ⟨known, fun same => kept ⟨same ▸ known, same⟩⟩

theorem replace (site : CallSite) (targets : ProcedureSet) :
    (edges.replace site targets).IsConverse :=
  (converse.eraseSite site).insertAll _

theorem replaceAll (entries : List (CallSite × ProcedureSet)) :
    (entries.foldl (fun edges entry => edges.replace entry.1 entry.2) edges).IsConverse := by
  induction entries generalizing edges with
  | nil => exact converse
  | cons entry entries ih => exact ih (converse.replace entry.1 entry.2)

theorem merged (program : Program) (extra : List CallEdge) :
    (edges.merged program extra).IsConverse :=
  converse.insertAll _

theorem decided (program : Program) (strategy : Option Strategy) :
    (edges.decided program strategy).IsConverse := by
  cases strategy with
  | none => exact converse
  | some strategy => exact converse.replaceAll (edges.refinements program strategy)

/-! ## Counting -/

/-- The links one way are those the other way, turned round. -/
theorem perm_toList : List.Perm (edges.callees.toList.map Prod.swap) edges.callers.toList := by
  have forward : (edges.callees.toList.map Prod.swap).Nodup :=
    List.Pairwise.map _
      (fun _ _ different same => different (by simpa using congrArg Prod.swap same))
      edges.callees.nodup_toList
  rw [List.perm_ext_iff_of_nodup forward edges.callers.nodup_toList]
  rintro ⟨id, site⟩
  rw [Links.mem_toList, List.mem_map]
  constructor
  · rintro ⟨link, member, same⟩
    cases same
    exact (converse _ _).mp (Links.mem_toList.mp member)
  · intro member
    exact ⟨(site, id), Links.mem_toList.mpr ((converse site id).mpr member), rfl⟩

/-- There are as many edges as all sets of callers together have members. -/
theorem size_eq :
    edges.size = (edges.callers.bySource.toList.map fun entry => entry.2.size).sum := by
  rw [size, ← Links.length_toList, ← converse.perm_toList.length_eq, List.length_map]

end IsConverse

end CallEdges

/-! ## Filling the tables -/

namespace Resolver

open Inquiry

variable {resolver : Resolver} (converse : resolver.edges.IsConverse) (subject : Subject)
include converse

theorem isConverse_collected : (resolver.collected subject).IsConverse := by
  have observed := (converse.insertAll subject.program.directEdges).merged subject.program
    subject.observed.found
  rw [collected]
  split
  · exact observed.merged subject.program subject.program.annotatedEdges
  · exact observed

theorem isConverse_after_populate : (after resolver (populate subject)).edges.IsConverse := by
  cases populated : resolver.populated with
  | true =>
    rw [after_populate_of_populated resolver subject populated]
    exact converse
  | false =>
    rw [after_populate_of_not_populated resolver subject populated]
    exact (isConverse_collected converse subject).decided subject.program resolver.strategy

end Resolver

end SandboxRpc
