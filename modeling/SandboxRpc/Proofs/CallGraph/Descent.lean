import SandboxRpc.Proofs.CallGraph.Search
import SandboxRpc.Proofs.CallGraph.Worklist

/-!
# The search down, step by step

`Descent` is the search for reachability as it goes on with a worklist. It ends as soon as a step
leads to the target, and does not say where it would have gone to after that.

- `IsSound` holds at every step of it (`isSound_iterate`). So no procedure is put on the worklist
  twice, and the list is taken from at most once for the source and each callee.
- `endsWith_start`: the search ends, with the answer of `CallEdges.isReachable`.
-/

namespace SandboxRpc

namespace Descent

/-- What a search down is about to do. -/
inductive Phase where
  /-- To look at steps from the procedure that was taken last. -/
  | following (offered : List Step)
  /-- Nothing any more. -/
  | ended (reached : Bool)
deriving DecidableEq, Repr

end Descent

/-- A search down that is under way. -/
structure Descent where
  list : Worklist
  phase : Descent.Phase

namespace Descent

/-- A search that is about to take its first procedure from the worklist. -/
def start (source : ProcedureId) : Descent where
  list := .start source
  phase := .following []

/-- The search after it has looked at one more step, or taken one more procedure. -/
def next (steps : ProcedureId → List Step) (target : ProcedureId) (search : Descent) : Descent :=
  match search.phase with
  | .following (step :: offered) =>
    -- The target counts as reached even if it was seen before, as the source is.
    if step.destination = target then { search with phase := .ended true }
    else if step.destination ∈ search.list.seen then { search with phase := .following offered }
    else
      { list := (search.list.mark step.destination).put step.destination
        phase := .following offered }
  | .following [] =>
    match search.list.take? with
    | some (here, list) => { list, phase := .following (steps here) }
    | none => { search with phase := .ended false }
  | .ended _ => search

/-- The answer of a search that has ended. -/
def answer? (search : Descent) : Option Bool :=
  match search.phase with
  | .following _ => none
  | .ended reached => some reached

variable {steps : ProcedureId → List Step} {source target : ProcedureId} {others : ProcedureSet}

/-! ## Every step -/

/-- All steps that are still to be looked at lead to known procedures. -/
def Phase.StaysIn (others : ProcedureSet) : Phase → Prop
  | following offered => ∀ step ∈ offered, step.destination ∈ others
  | ended _ => True

/-- The worklist is in order, and goes on being so. -/
structure IsSound (source : ProcedureId) (others : ProcedureSet) (search : Descent) : Prop where
  list : search.list.IsOrderly (others.insert source)
  phase : search.phase.StaysIn others

theorem isSound_start : (start source).IsSound source others where
  list := Worklist.isOrderly_start Std.ExtTreeSet.mem_insert_self
  phase := List.forall_mem_nil _

theorem IsSound.next (known : ∀ id, ∀ step ∈ steps id, step.destination ∈ others)
    {search : Descent} (sound : search.IsSound source others) :
    (next steps target search).IsSound source others := by
  obtain ⟨list, phase⟩ := search
  obtain ⟨orderly, stays⟩ := sound
  cases phase with
  | ended reached => exact ⟨orderly, stays⟩
  | following offered =>
    cases offered with
    | nil =>
      simp only [Descent.next]
      split
      · rename_i here rest taking
        exact ⟨(orderly.take taking).1, known here⟩
      · exact ⟨orderly, trivial⟩
    | cons step offered =>
      obtain ⟨inside, rest⟩ := List.forall_mem_cons.mp stays
      simp only [Descent.next]
      split
      · exact ⟨orderly, trivial⟩
      · split
        · exact ⟨orderly, rest⟩
        · rename_i new
          exact ⟨orderly.put (Std.ExtTreeSet.mem_insert.mpr (.inr inside)) new, rest⟩

/-- After any number of steps the worklist is in order. -/
theorem isSound_iterate (edges : CallEdges) (program : Program) (scope : CallSiteSet)
    (count : Nat) :
    ((next (edges.stepsDown program scope) target)^[count] (start source)).IsSound source
      edges.allCallees :=
  iterate_keeps (IsSound source edges.allCallees)
    (fun _ sound => sound.next fun _ _ => CallEdges.mem_allCallees_of_mem_stepsDown)
    isSound_start count

/-! ## The end -/

/-- The steps from a visit are looked at one by one, until one of them leads to the target. -/
theorem endsWith_following {reached : Bool} {here : Visit} {offered : List Step}
    (inside : ∀ step ∈ offered, step.destination ∈ others) {list : Worklist}
    {queue : List Visit} {unseen : ProcedureSet} (matched : list.Matches others queue unseen)
    (after : ∀ {list : Worklist},
      list.Matches others (queue ++ (discover offered unseen).1.map here.extend)
        (discover offered unseen).2 →
      EndsWith (next steps target) answer? { list, phase := .following [] } reached) :
    EndsWith (next steps target) answer? { list, phase := .following offered }
      (offered.any (·.destination = target) || reached) := by
  induction offered generalizing list queue unseen with
  | nil => exact after (by simpa [discover] using matched)
  | cons step offered ih =>
    obtain ⟨known, rest⟩ := List.forall_mem_cons.mp inside
    refine .step ?_
    simp only [next, List.any_cons]
    split
    · rename_i arrived
      exact .now (by simp [answer?, arrived])
    · rename_i elsewhere
      simp only [elsewhere, decide_false, Bool.false_or]
      split
      · rename_i seen
        have old : step.destination ∉ unseen := fun new =>
          ((matched.mem_unseen _).mp new).2 seen
        rw [discover_cons_of_not_mem old] at after
        exact ih rest matched after
      · rename_i unnoticed
        have new : step.destination ∈ unseen := (matched.mem_unseen _).mpr ⟨known, unnoticed⟩
        rw [discover_cons_of_mem new, List.map_cons, List.append_cons] at after
        exact ih rest (matched.put step) after

/-- The search goes from procedure to procedure as the exploration does. -/
theorem endsWith_explore (known : ∀ id, ∀ step ∈ steps id, step.destination ∈ others)
    {list : Worklist} {queue : List Visit} {unseen : ProcedureSet}
    (matched : list.Matches others queue unseen) :
    EndsWith (next steps target) answer? { list, phase := .following [] }
      ((explore steps queue unseen).any fun visit =>
        (steps visit.procedure).any (·.destination = target)) := by
  fun_induction explore steps queue unseen generalizing list with
  | case1 unseen =>
    refine .step (.now ?_)
    simp only [next, matched.take?_eq_none]
    rfl
  | case2 unseen here queue found =>
    rename_i ih
    obtain ⟨rest, taking, matched⟩ := matched.take
    refine .step ?_
    simp only [next, taking, List.any_cons]
    exact endsWith_following (known _) matched ih

theorem endsWith_start (edges : CallEdges) (program : Program) (scope : CallSiteSet) :
    EndsWith (next (edges.stepsDown program scope) target) answer? (start source)
      (edges.isReachable program scope source target) :=
  endsWith_explore (fun _ _ => CallEdges.mem_allCallees_of_mem_stepsDown) Worklist.matches_start

end Descent

end SandboxRpc
