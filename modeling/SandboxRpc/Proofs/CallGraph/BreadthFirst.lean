import SandboxRpc.CallGraph.Exploration

/-!
# What a breadth-first search finds

A `Walk` is a way along steps from where a search starts. The search is right in three respects:

- every visit is at the end of a walk, namely of its own path (`walk_of_mem_exploreFrom`);
- visits come in order of the lengths of their paths (`pairwise_exploreFrom`);
- wherever a walk leads, there is a visit over a path that is no longer (`Walk.exists_visit`).

The order rests on the queue: the visits that wait in it are of two lengths at most, the shorter
ones in front (`IsLevelled`).
-/

namespace SandboxRpc

variable {steps : ProcedureId → List Step}

/-- A way along steps from a start to a procedure, with the call sites passed, the last one
first. -/
inductive Walk (steps : ProcedureId → List Step) (start : ProcedureId) :
    ProcedureId → List CallSite → Prop where
  | start : Walk steps start start []
  | step {here : ProcedureId} {path : List CallSite} (before : Walk steps start here path)
      {step : Step} (next : step ∈ steps here) :
      Walk steps start step.destination (step.site :: path)

/-! ## Discovery -/

section Discovery

variable {offered : List Step} {unseen : ProcedureSet}

theorem mem_of_mem_discover {step : Step} (found : step ∈ (discover offered unseen).1) :
    step ∈ offered := by
  induction offered generalizing unseen with
  | nil => exact found
  | cons first offered ih =>
    rw [discover] at found
    split at found
    · rcases List.mem_cons.mp found with rfl | later
      · exact List.mem_cons_self
      · exact List.mem_cons_of_mem _ (ih later)
    · exact List.mem_cons_of_mem _ (ih found)

theorem mem_unseen_of_mem_discover {id : ProcedureId} (left : id ∈ (discover offered unseen).2) :
    id ∈ unseen := by
  induction offered generalizing unseen with
  | nil => exact left
  | cons first offered ih =>
    rw [discover] at left
    split at left
    · exact (Std.ExtTreeSet.mem_erase.mp (ih left)).2
    · exact ih left

theorem not_mem_unseen_of_mem {step : Step} (offer : step ∈ offered) :
    step.destination ∉ (discover offered unseen).2 := by
  induction offered generalizing unseen with
  | nil => cases offer
  | cons first offered ih =>
    rw [discover]
    rcases List.mem_cons.mp offer with rfl | later
    · split
      · -- It was taken out of the unseen ones, and nothing becomes unseen again.
        intro left
        simpa using mem_unseen_of_mem_discover left
      · rename_i seen
        exact fun left => seen (mem_unseen_of_mem_discover left)
    · split
      · exact ih later
      · exact ih later

theorem mem_unseen_or_discovered {id : ProcedureId} (new : id ∈ unseen) :
    id ∈ (discover offered unseen).2 ∨
      ∃ step ∈ (discover offered unseen).1, step.destination = id := by
  induction offered generalizing unseen with
  | nil => exact .inl new
  | cons first offered ih =>
    rw [discover]
    split
    · by_cases here : first.destination = id
      · exact .inr ⟨first, List.mem_cons_self, here⟩
      · have still : id ∈ unseen.erase first.destination := by
          simp [here, new]
        rcases ih still with left | ⟨step, found, leads⟩
        · exact .inl left
        · exact .inr ⟨step, List.mem_cons_of_mem _ found, leads⟩
    · exact ih new

end Discovery

/-! ## Visits -/

variable {queue : List Visit} {unseen : ProcedureSet}

theorem mem_explore_of_mem_queue {visit : Visit} (queued : visit ∈ queue) :
    visit ∈ explore steps queue unseen := by
  induction queue, unseen using explore.induct steps with
  | case1 unseen => cases queued
  | case2 unseen first queue found ih =>
    rw [explore]
    rcases List.mem_cons.mp queued with rfl | waiting
    · exact List.mem_cons_self
    · exact List.mem_cons_of_mem _ (ih (List.mem_append_left _ waiting))

/-- What holds of the visits in the queue, and of each visit that goes on over a step, holds of all
visits. -/
theorem forall_mem_explore (holds : Visit → Prop)
    (extend : ∀ visit, holds visit → ∀ step ∈ steps visit.procedure, holds (visit.extend step))
    (queued : ∀ visit ∈ queue, holds visit) :
    ∀ visit ∈ explore steps queue unseen, holds visit := by
  induction queue, unseen using explore.induct steps with
  | case1 unseen => simp [explore]
  | case2 unseen first queue found ih =>
    obtain ⟨here, waiting⟩ := List.forall_mem_cons.mp queued
    rw [explore]
    refine List.forall_mem_cons.mpr ⟨here, ih fun next member => ?_⟩
    rcases List.mem_append.mp member with old | new
    · exact waiting next old
    · obtain ⟨step, discovered, rfl⟩ := List.mem_map.mp new
      exact extend first here step (mem_of_mem_discover discovered)

/-! ## The order of visits -/

/-- The paths in a queue get longer, by one call site at most from the first to the last. -/
def IsLevelled (queue : List Visit) : Prop :=
  queue.Pairwise fun first second =>
    first.path.length ≤ second.path.length ∧ second.path.length ≤ first.path.length + 1

theorem IsLevelled.extend {visit : Visit} (levelled : IsLevelled (visit :: queue))
    (found : List Step) : IsLevelled (queue ++ found.map visit.extend) := by
  obtain ⟨ahead, rest⟩ := List.pairwise_cons.mp levelled
  have length {next : Visit} (new : next ∈ found.map visit.extend) :
      next.path.length = visit.path.length + 1 := by
    obtain ⟨step, _, rfl⟩ := List.mem_map.mp new
    rfl
  refine List.pairwise_append.mpr ⟨rest, ?_, ?_⟩
  · -- What was found in one go is all at the same distance.
    rw [List.pairwise_map]
    exact List.pairwise_of_forall fun _ _ => ⟨Nat.le_refl _, Nat.le_succ _⟩
  · intro old waiting next new
    have := ahead old waiting
    have := length new
    omega

theorem pairwise_explore (levelled : IsLevelled queue) :
    (explore steps queue unseen).Pairwise fun first second =>
      first.path.length ≤ second.path.length := by
  induction queue, unseen using explore.induct steps with
  | case1 unseen => simp [explore]
  | case2 unseen first queue found ih =>
    have next := levelled.extend found.1
    rw [explore]
    refine List.pairwise_cons.mpr ⟨?_, ih next⟩
    -- Nothing in the queue is nearer than its first visit, and paths only get longer from there.
    refine forall_mem_explore (fun visit => first.path.length ≤ visit.path.length) ?_ ?_
    · intro visit farther step _
      exact Nat.le_succ_of_le farther
    · intro visit member
      rcases List.mem_append.mp member with old | new
      · exact ((List.pairwise_cons.mp levelled).1 visit old).1
      · obtain ⟨step, _, rfl⟩ := List.mem_map.mp new
        exact Nat.le_succ _

/-- A step from a visit to an unseen procedure is taken up: there is a visit to that procedure, and
at most one call site farther off. -/
theorem exists_visit_of_step (levelled : IsLevelled queue) {visit : Visit}
    (visited : visit ∈ explore steps queue unseen) {step : Step}
    (next : step ∈ steps visit.procedure) (new : step.destination ∈ unseen) :
    ∃ later ∈ explore steps queue unseen,
      later.procedure = step.destination ∧ later.path.length ≤ visit.path.length + 1 := by
  have ordered : (explore steps queue unseen).Pairwise _ := pairwise_explore levelled
  induction queue, unseen using explore.induct steps with
  | case1 unseen => simp [explore] at visited
  | case2 unseen first queue found ih =>
    rw [explore] at visited ordered ⊢
    have outcome : step.destination ∈ found.2 ∨ _ := mem_unseen_or_discovered new
    rcases outcome with left | discovered
    · -- It is not the first visit that comes to it, so the visit in question comes after.
      rcases List.mem_cons.mp visited with rfl | visited
      · exact absurd left (not_mem_unseen_of_mem next)
      · obtain ⟨later, member, same, near⟩ :=
          ih (levelled.extend found.1) visited left (List.pairwise_cons.mp ordered).2
        exact ⟨later, List.mem_cons_of_mem _ member, same, near⟩
    · obtain ⟨shortcut, chosen, same⟩ := discovered
      refine ⟨first.extend shortcut, List.mem_cons_of_mem _ ?_, same, ?_⟩
      · exact mem_explore_of_mem_queue
          (List.mem_append_right _ (List.mem_map_of_mem chosen))
      · have nearest : first.path.length ≤ visit.path.length := by
          rcases List.mem_cons.mp visited with rfl | visited
          · exact Nat.le_refl _
          · exact (List.pairwise_cons.mp ordered).1 visit visited
        exact Nat.succ_le_succ nearest

/-! ## Searches from one procedure -/

variable {start : ProcedureId} {others : ProcedureSet}

theorem walk_of_mem_exploreFrom {visit : Visit} (visited : visit ∈ exploreFrom steps start others) :
    Walk steps start visit.procedure visit.path := by
  refine forall_mem_explore (fun visit => Walk steps start visit.procedure visit.path) ?_ ?_ visit
    visited
  · exact fun _ before _ next => before.step next
  · intro visit queued
    obtain rfl := List.mem_singleton.mp queued
    exact .start

theorem pairwise_exploreFrom : (exploreFrom steps start others).Pairwise fun first second =>
    first.path.length ≤ second.path.length :=
  pairwise_explore (List.pairwise_singleton _ _)

/-- Wherever a walk leads, the search comes to, and not over a longer path. -/
theorem Walk.exists_visit (known : ∀ id, ∀ step ∈ steps id, step.destination ∈ others)
    {here : ProcedureId} {path : List CallSite} (walk : Walk steps start here path) :
    ∃ visit ∈ exploreFrom steps start others,
      visit.procedure = here ∧ visit.path.length ≤ path.length := by
  have atStart : Visit.mk start [] ∈ exploreFrom steps start others :=
    mem_explore_of_mem_queue List.mem_cons_self
  induction walk with
  | start => exact ⟨_, atStart, rfl, Nat.le_refl _⟩
  | @step here path before step next ih =>
    obtain ⟨visit, visited, rfl, near⟩ := ih
    -- The start is never among the unseen procedures, but there is a visit to it already.
    by_cases back : step.destination = start
    · exact ⟨_, atStart, back.symm, Nat.zero_le _⟩
    · have new : step.destination ∈ others.erase start := by
        simp [Ne.symm back, known _ step next]
      obtain ⟨later, visited', same, farther⟩ :=
        exists_visit_of_step (List.pairwise_singleton _ _) visited next new
      exact ⟨later, visited', same, Nat.le_trans farther (Nat.succ_le_succ near)⟩

theorem length_le_of_find? {kind : Visit → Bool} {first : Visit}
    (found : (exploreFrom steps start others).find? kind = some first) {visit : Visit}
    (visited : visit ∈ exploreFrom steps start others) (ofKind : kind visit) :
    first.path.length ≤ visit.path.length := by
  have ordered : (exploreFrom steps start others).Pairwise _ := pairwise_exploreFrom
  obtain ⟨_, before, later, split, others⟩ := List.find?_eq_some_iff_append.mp found
  rw [split] at visited ordered
  rcases List.mem_append.mp visited with early | late
  · simpa [ofKind] using others visit early
  · rcases List.mem_cons.mp late with rfl | late
    · exact Nat.le_refl _
    · exact (List.pairwise_cons.mp (List.pairwise_append.mp ordered).2.1).1 visit late

end SandboxRpc
