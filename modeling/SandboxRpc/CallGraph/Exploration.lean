import SandboxRpc.Program.Basic

/-!
# Breadth-first exploration

From a procedure one explores the call graph along steps, each a call site and the procedure that it
leads to. The direction is the caller's business: a step may go down, from a caller to a callee, or
up, from a callee to its caller.

- `discover` picks the steps that lead to procedures not seen before, at most one to each.
- `explore` lists the procedures in the order in which a breadth-first search comes to them, each
  with the steps that led there. Near procedures come before far ones, so no shorter way leads
  there.

The search ends because the procedures that it may still discover are given as a finite set: every
discovery moves one of them into the queue.
-/

namespace SandboxRpc

/-- A step of the exploration: over a call site to another procedure. -/
structure Step where
  site : CallSite
  destination : ProcedureId
deriving DecidableEq, Repr

/-- A procedure that the exploration came to, with the call sites on the way, the last one first. -/
structure Visit where
  procedure : ProcedureId
  path : List CallSite
deriving DecidableEq, Repr

/-- The first steps to procedures in `unseen`, and the procedures that stay unseen. -/
def discover : List Step → ProcedureSet → List Step × ProcedureSet
  | [], unseen => ([], unseen)
  | step :: steps, unseen =>
    if step.destination ∈ unseen then
      -- A later step to the same procedure finds it seen.
      let later := discover steps (unseen.erase step.destination)
      (step :: later.1, later.2)
    else discover steps unseen

theorem size_erase_add_one {set : ProcedureSet} {id : ProcedureId} (member : id ∈ set) :
    (set.erase id).size + 1 = set.size := by
  have nonempty : set.size ≠ 0 := fun none => by
    simp [Std.ExtTreeSet.eq_empty_iff_size_eq_zero.mpr none] at member
  rw [Std.ExtTreeSet.size_erase, if_pos (Std.ExtTreeSet.contains_iff_mem.mpr member)]
  omega

/-- Discovery only moves procedures: each one found is one less to find. -/
theorem length_discover_add_size (steps : List Step) (unseen : ProcedureSet) :
    (discover steps unseen).1.length + (discover steps unseen).2.size = unseen.size := by
  induction steps generalizing unseen with
  | nil => simp [discover]
  | cons step steps ih =>
    by_cases new : step.destination ∈ unseen
    · have moved := ih (unseen.erase step.destination)
      have fewer := size_erase_add_one new
      simp only [discover, new, ↓reduceIte, List.length_cons]
      omega
    · simpa [discover, new] using ih unseen

/-- Continues a visit over a step. -/
def Visit.extend (visit : Visit) (step : Step) : Visit where
  procedure := step.destination
  path := step.site :: visit.path

/-- All visits of a breadth-first search with `queue` still to be visited and `unseen` still to be
discovered. -/
def explore (steps : ProcedureId → List Step) (queue : List Visit) (unseen : ProcedureSet) :
    List Visit :=
  match queue with
  | [] => []
  | visit :: queue =>
    let found := discover (steps visit.procedure) unseen
    visit :: explore steps (queue ++ found.1.map visit.extend) found.2
termination_by queue.length + unseen.size
decreasing_by
  have moved := length_discover_add_size (steps visit.procedure) unseen
  simp only [List.length_append, List.length_map, List.length_cons]
  omega

/-- All visits of a breadth-first search from one procedure. -/
def exploreFrom (steps : ProcedureId → List Step) (start : ProcedureId) (others : ProcedureSet) :
    List Visit :=
  explore steps [{ procedure := start, path := [] }] (others.erase start)

end SandboxRpc
