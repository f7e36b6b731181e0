import Mathlib.Data.List.Nodup
import Mathlib.Data.List.Perm.Subperm
import Mathlib.Logic.Function.Iterate
import SandboxRpc.Proofs.CallGraph.BreadthFirst

/-!
# Worklists

A search may keep a list of the procedures that it has still to go to. It takes the first one, looks
at the steps from there one by one, and puts on the list whatever it has not seen before. `Worklist`
is such a list, together with what it has held so far.

- No procedure is put on an orderly worklist twice, so the list cannot be taken from more often than
  there are procedures (`Worklist.IsOrderly.length_taken_le`).
- A worklist can follow an exploration. `Worklist.Matches` says that both have come to the same
  point, and it goes on to hold when they look at one more step or go on to the next procedure.
- Whoever goes on step by step either keeps something at every step (`iterate_keeps`) or comes to an
  end (`EndsWith`).
-/

namespace SandboxRpc

/-! ## Step after step -/

section Steps

variable {σ α : Type} {next : σ → σ} {result : σ → Option α}

/-- Step after step, one comes from a state to one that has a result. -/
def EndsWith (next : σ → σ) (result : σ → Option α) (state : σ) (value : α) : Prop :=
  ∃ count, result (next^[count] state) = some value

theorem EndsWith.now {state : σ} {value : α} (here : result state = some value) :
    EndsWith next result state value :=
  ⟨0, here⟩

theorem EndsWith.later {state : σ} {value : α} (count : Nat)
    (ends : EndsWith next result (next^[count] state) value) :
    EndsWith next result state value := by
  obtain ⟨more, here⟩ := ends
  exact ⟨more + count, by rwa [Function.iterate_add_apply]⟩

theorem EndsWith.step {state : σ} {value : α} (ends : EndsWith next result (next state) value) :
    EndsWith next result state value :=
  .later 1 ends

/-- What every step keeps holds after any number of them. -/
theorem iterate_keeps (holds : σ → Prop) (step : ∀ state, holds state → holds (next state))
    {state : σ} (start : holds state) (count : Nat) : holds (next^[count] state) := by
  induction count with
  | zero => exact start
  | succ count ih =>
    rw [Function.iterate_succ_apply']
    exact step _ ih

end Steps

/-! ## Worklists -/

/-- Procedures that wait to be gone to, and what has been on the list so far. -/
structure Worklist where
  /-- What was taken from the list, in this order. -/
  taken : List ProcedureId := []
  /-- What waits, the next one in front. -/
  waiting : List ProcedureId
  /-- What is not to be put on the list any more. -/
  seen : ProcedureSet

namespace Worklist

/-- A list with a single procedure on it. -/
def start (id : ProcedureId) : Worklist where
  waiting := [id]
  seen := {id}

/-- Notes that a procedure has been seen. -/
def mark (list : Worklist) (id : ProcedureId) : Worklist :=
  { list with seen := list.seen.insert id }

/-- Puts a procedure at the end of the list. -/
def put (list : Worklist) (id : ProcedureId) : Worklist :=
  { list with waiting := list.waiting ++ [id] }

/-- Takes the first procedure from the list, if there is one. -/
def take? (list : Worklist) : Option (ProcedureId × Worklist) :=
  match list.waiting with
  | [] => none
  | id :: waiting => some (id, { list with taken := list.taken ++ [id], waiting })

/-- Everything that was ever put on the list, in this order. -/
def entered (list : Worklist) : List ProcedureId :=
  list.taken ++ list.waiting

variable {list : Worklist} {known : ProcedureSet} {id : ProcedureId}

theorem entered_put : (list.put id).entered = list.entered ++ [id] :=
  (List.append_assoc list.taken list.waiting [id]).symm

/-- A procedure that is taken has still been on the list. -/
theorem entered_of_take? {rest : Worklist} (taking : list.take? = some (id, rest)) :
    rest.entered = list.entered ∧ rest.seen = list.seen ∧ id ∈ list.entered := by
  obtain ⟨taken, waiting, seen⟩ := list
  cases waiting with
  | nil => cases taking
  | cons first waiting =>
    cases taking
    exact ⟨List.append_assoc taken [id] waiting, rfl, by simp [entered]⟩

theorem mem_seen_mark {other : ProcedureId} :
    other ∈ (list.mark id).seen ↔ id = other ∨ other ∈ list.seen := by
  simp [mark]

theorem mem_seen_start {other : ProcedureId} : other ∈ (start id).seen ↔ id = other := by
  simp [start]

/-! ## Order on the list -/

/-- Nothing was put on the list twice, and all that was is marked as seen; nothing but `known`
procedures is. -/
structure IsOrderly (known : ProcedureSet) (list : Worklist) : Prop where
  nodup : list.entered.Nodup
  seen : ∀ id ∈ list.entered, id ∈ list.seen
  known : ∀ id ∈ list.seen, id ∈ known

theorem isOrderly_start (here : id ∈ known) : (start id).IsOrderly known where
  nodup := List.nodup_singleton id
  seen _ member := mem_seen_start.mpr (List.mem_singleton.mp member).symm
  known _ member := mem_seen_start.mp member ▸ here

namespace IsOrderly

variable (orderly : list.IsOrderly known)
include orderly

theorem mark (here : id ∈ known) : (list.mark id).IsOrderly known where
  nodup := orderly.nodup
  seen other member := mem_seen_mark.mpr (.inr (orderly.seen other member))
  known other member := by
    rcases mem_seen_mark.mp member with rfl | old
    · exact here
    · exact orderly.known other old

/-- What was not seen before can go on the list, for all that is on it was seen. -/
theorem put (here : id ∈ known) (new : id ∉ list.seen) :
    ((list.mark id).put id).IsOrderly known where
  nodup := by
    rw [entered_put, ← List.concat_eq_append]
    exact orderly.nodup.concat fun again => new (orderly.seen id again)
  seen other member := by
    rw [entered_put] at member
    rcases List.mem_append.mp member with old | last
    · exact (orderly.mark here).seen other old
    · exact mem_seen_mark.mpr (.inl (List.mem_singleton.mp last).symm)
  known := (orderly.mark here).known

theorem take {rest : Worklist} (taking : list.take? = some (id, rest)) :
    rest.IsOrderly known ∧ id ∈ rest.seen := by
  obtain ⟨same, kept, member⟩ := entered_of_take? taking
  refine ⟨⟨?_, ?_, ?_⟩, ?_⟩
  · exact same ▸ orderly.nodup
  · exact fun other member => kept ▸ orderly.seen other (same ▸ member)
  · exact fun other member => orderly.known other (kept ▸ member)
  · exact kept ▸ orderly.seen id member

/-- The list is taken from at most once for every known procedure. -/
theorem length_taken_le : list.taken.length ≤ known.size := by
  have distinct : list.taken.Nodup := (List.nodup_append.mp orderly.nodup).1
  have inside : list.taken ⊆ known.toList := fun id member =>
    Std.ExtTreeSet.mem_toList.mpr
      (orderly.known id (orderly.seen id (List.mem_append_left _ member)))
  rw [← Std.ExtTreeSet.length_toList]
  exact (List.subperm_of_subset distinct inside).length_le

end IsOrderly

end Worklist

/-! ## Along an exploration -/

section Exploration

variable {steps : ProcedureId → List Step} {step : Step} {offered : List Step} {here : Visit}
  {queue : List Visit} {unseen : ProcedureSet}

theorem discover_cons_of_mem (new : step.destination ∈ unseen) :
    discover (step :: offered) unseen =
      (step :: (discover offered (unseen.erase step.destination)).1,
        (discover offered (unseen.erase step.destination)).2) :=
  if_pos new

theorem discover_cons_of_not_mem (old : step.destination ∉ unseen) :
    discover (step :: offered) unseen = discover offered unseen :=
  if_neg old

/-- What waits in the queue is visited before anything else. -/
theorem prefix_explore : queue <+: explore steps queue unseen := by
  induction queue, unseen using explore.induct steps with
  | case1 unseen => exact List.nil_prefix
  | case2 unseen first queue found ih =>
    rw [explore]
    exact List.cons_prefix_cons.mpr ⟨rfl, (List.prefix_append _ _).trans ih⟩

namespace Worklist

/-- A worklist and the queue of an exploration have come to the same point. -/
structure Matches (others : ProcedureSet) (queue : List Visit) (unseen : ProcedureSet)
    (list : Worklist) : Prop where
  waiting : list.waiting = queue.map Visit.procedure
  mem_unseen : ∀ id, id ∈ unseen ↔ id ∈ others ∧ id ∉ list.seen

variable {others : ProcedureSet} {list : Worklist} {id : ProcedureId}

theorem matches_start : (start id).Matches others [{ procedure := id, path := [] }]
    (others.erase id) where
  waiting := rfl
  mem_unseen other := by
    rw [mem_seen_start]
    simp [and_comm]

theorem Matches.put (matched : list.Matches others queue unseen) (step : Step) :
    ((list.mark step.destination).put step.destination).Matches others
      (queue ++ [here.extend step]) (unseen.erase step.destination) where
  waiting := by
    show list.waiting ++ [step.destination] = _
    rw [matched.waiting, List.map_append]
    rfl
  mem_unseen other := by
    show _ ↔ _ ∧ other ∉ (list.mark step.destination).seen
    rw [mem_seen_mark, Std.ExtTreeSet.mem_erase, matched.mem_unseen, ne_eq,
      Std.LawfulEqOrd.compare_eq_iff_eq]
    tauto

theorem Matches.take?_eq_none (matched : list.Matches others [] unseen) : list.take? = none := by
  rw [take?, matched.waiting]
  rfl

theorem Matches.take (matched : list.Matches others (here :: queue) unseen) :
    ∃ rest, list.take? = some (here.procedure, rest) ∧ rest.Matches others queue unseen := by
  obtain ⟨taken, waiting, seen⟩ := list
  obtain ⟨rfl, mem_unseen⟩ := matched
  exact ⟨_, rfl, rfl, mem_unseen⟩

end Worklist

end Exploration

end SandboxRpc
