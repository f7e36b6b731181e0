import SandboxRpc.Proofs.CallGraph.Pointers
import SandboxRpc.Proofs.CallGraph.Search
import SandboxRpc.Proofs.CallGraph.Worklist

/-!
# The search up, step by step

`Ascent` is the search for a trace as it goes on with a worklist. It keeps a pointer for each caller
that it finds. As soon as it finds an entry point, it follows the pointers from there and writes
down the call sites that it passes.

- `IsSound` holds at every step (`isSound_iterate`). So the worklist is in order, and the pointers
  lead from every caller to the procedure that the search is about.
- When pointers are followed, they are followed to that procedure and no farther
  (`IsSound.rebuilds`).
- `endsWith_start`: the search ends, with the trace of `CallEdges.callTrace`.
-/

namespace SandboxRpc

namespace Ascent

/-- What a search up is about to do. -/
inductive Phase where
  /-- To look at steps up from the procedure that was taken last. -/
  | following (here : ProcedureId) (offered : List Step)
  /-- To follow the pointer from a procedure, after those that led there from an entry point. -/
  | rebuilding (id : ProcedureId) (chain : List CallSite)
  /-- Nothing any more. -/
  | ended (trace : List CallSite)
deriving DecidableEq, Repr

end Ascent

/-- A search up that is under way. -/
structure Ascent where
  list : Worklist
  toward : Pointers
  phase : Ascent.Phase

namespace Ascent

/-- A search that is about to take its first procedure from the worklist, unless there is nothing to
search for. -/
def start (entryPoints : List ProcedureId) (target : ProcedureId) : Ascent where
  list := .start target
  toward := ∅
  phase := if target ∈ entryPoints then .ended [] else .following target []

/-- Notes a caller that was not seen before, and how it leads to the procedure taken last. -/
def note (search : Ascent) (here : ProcedureId) (step : Step) : Ascent :=
  { search with
    list := search.list.mark step.destination
    toward := search.toward.insert step.destination (step.site, here) }

/-- The search after it has looked at one more step, taken one more procedure, or followed one more
pointer. -/
def next (steps : ProcedureId → List Step) (entryPoints : List ProcedureId) (search : Ascent) :
    Ascent :=
  match search.phase with
  | .following here (step :: offered) =>
    if step.destination ∈ search.list.seen then
      { search with phase := .following here offered }
    else if step.destination ∈ entryPoints then
      { search.note here step with phase := .rebuilding step.destination [] }
    else
      { search.note here step with
        list := (search.list.mark step.destination).put step.destination
        phase := .following here offered }
  | .following _ [] =>
    match search.list.take? with
    | some (here, list) => { search with list, phase := .following here (steps here) }
    | none => { search with phase := .ended [] }
  | .rebuilding id chain =>
    match search.toward[id]? with
    | some (site, onward) => { search with phase := .rebuilding onward (chain ++ [site]) }
    | none => { search with phase := .ended chain.reverse }
  | .ended _ => search

/-- The trace of a search that has ended. -/
def answer? (search : Ascent) : Option (List CallSite) :=
  match search.phase with
  | .ended trace => some trace
  | _ => none

variable {steps : ProcedureId → List Step} {entryPoints : List ProcedureId} {target : ProcedureId}
  {others : ProcedureSet}

/-! ## Every step -/

/-- Steps lead from call sites to their callers, which are known. -/
def LeadUp (others : ProcedureSet) (offered : List Step) : Prop :=
  ∀ step ∈ offered, step.destination = step.site.caller ∧ step.destination ∈ others

/-- The search goes on from procedures that it has seen, and up to callers. -/
def Phase.StaysIn (others seen : ProcedureSet) : Phase → Prop
  | following here offered => here ∈ seen ∧ LeadUp others offered
  | rebuilding id _ => id ∈ seen
  | ended _ => True

/-- The worklist is in order, and the pointers lead from all that was seen to the target. -/
structure IsSound (target : ProcedureId) (others : ProcedureSet) (search : Ascent) : Prop where
  list : search.list.IsOrderly (others.insert target)
  toward : search.toward.AllLeadTo target search.list.seen
  phase : search.phase.StaysIn others search.list.seen

theorem isSound_start : (start entryPoints target).IsSound target others where
  list := Worklist.isOrderly_start Std.ExtTreeSet.mem_insert_self
  toward := Pointers.allLeadTo_empty
  phase := by
    rw [start]
    split
    · trivial
    · exact ⟨by simp [Worklist.start], List.forall_mem_nil _⟩

/-- What a step leads to is noted with a pointer to where the step comes from. -/
theorem IsSound.note {search : Ascent} (sound : search.IsSound target others)
    {here : ProcedureId} (old : here ∈ search.list.seen) {step : Step}
    (up : step.destination = step.site.caller ∧ step.destination ∈ others)
    (new : step.destination ∉ search.list.seen) :
    (search.note here step).list.IsOrderly (others.insert target) ∧
      (search.note here step).toward.AllLeadTo target (search.note here step).list.seen := by
  obtain ⟨stands, inside⟩ := up
  refine ⟨sound.list.mark (Std.ExtTreeSet.mem_insert.mpr (.inr inside)), ?_⟩
  rw [Ascent.note, stands]
  exact sound.toward.insert (stands ▸ new) old

theorem IsSound.next (up : ∀ id, LeadUp others (steps id)) {search : Ascent}
    (sound : search.IsSound target others) :
    (next steps entryPoints search).IsSound target others := by
  obtain ⟨list, toward, phase⟩ := search
  have ⟨orderly, lead, stays⟩ := sound
  cases phase with
  | ended trace => exact sound
  | rebuilding id chain =>
    simp only [Ascent.next]
    split
    · rename_i site onward pointer
      exact ⟨orderly, lead, lead.mem_seen_of_pointer pointer⟩
    · exact ⟨orderly, lead, trivial⟩
  | following here offered =>
    cases offered with
    | nil =>
      simp only [Ascent.next]
      split
      · rename_i here rest taking
        obtain ⟨orderly', old⟩ := orderly.take taking
        exact ⟨orderly', (Worklist.entered_of_take? taking).2.1 ▸ lead, old, up here⟩
      · exact ⟨orderly, lead, trivial⟩
    | cons step offered =>
      obtain ⟨old, offers⟩ := stays
      obtain ⟨first, rest⟩ := List.forall_mem_cons.mp offers
      have still : here ∈ (list.mark step.destination).seen :=
        Worklist.mem_seen_mark.mpr (.inr old)
      simp only [Ascent.next]
      split
      · exact ⟨orderly, lead, old, rest⟩
      · rename_i new
        obtain ⟨orderly', lead'⟩ := sound.note old first new
        split
        · exact ⟨orderly', lead', Worklist.mem_seen_mark.mpr (.inl rfl)⟩
        · have known : step.destination ∈ others.insert target :=
            Std.ExtTreeSet.mem_insert.mpr (.inr first.2)
          exact ⟨orderly.put known new, lead', still, rest⟩

theorem leadUp_stepsUp (edges : CallEdges) (scope : CallSiteSet) (id : ProcedureId) :
    LeadUp edges.allCallers (edges.stepsUp scope id) :=
  fun _ => CallEdges.caller_of_mem_stepsUp

/-- After any number of steps the worklist is in order, and the pointers lead to the target. -/
theorem isSound_iterate (edges : CallEdges) (scope : CallSiteSet) (count : Nat) :
    ((next (edges.stepsUp scope) entryPoints)^[count] (start entryPoints target)).IsSound target
      edges.allCallers :=
  iterate_keeps (IsSound target edges.allCallers)
    (fun _ sound => sound.next (leadUp_stepsUp edges scope)) isSound_start count

/-! ## Following the pointers -/

theorem iterate_rebuilding {list : Worklist} {toward : Pointers} {id : ProcedureId}
    {chain : List CallSite} (leads : Leads toward.Points id chain target)
    (passed : List CallSite) :
    (next steps entryPoints)^[chain.length]
        { list, toward, phase := .rebuilding id passed } =
      { list, toward, phase := .rebuilding target (passed ++ chain) } := by
  induction leads generalizing passed with
  | here id => simp
  | @call site onward target chain now later ih =>
    have first : next steps entryPoints
        { list, toward, phase := .rebuilding site.caller passed } =
          { list, toward, phase := .rebuilding onward (passed ++ [site]) } := by
      rw [Pointers.Points] at now
      simp only [next, now]
    rw [List.length_cons, Function.iterate_succ_apply, first, ih, List.append_assoc]
    rfl

theorem next_rebuilding {list : Worklist} {toward : Pointers} (ends : target ∉ toward)
    (chain : List CallSite) :
    next steps entryPoints { list, toward, phase := .rebuilding target chain } =
      { list, toward, phase := .ended chain.reverse } := by
  simp only [next, Std.ExtTreeMap.getElem?_eq_none ends]

/-- Once an entry point is found, pointers are followed to the target, which takes no more steps
than there are pointers, and not beyond. -/
theorem IsSound.rebuilds {search : Ascent} (sound : search.IsSound target others)
    {id : ProcedureId} {passed : List CallSite} (phase : search.phase = .rebuilding id passed) :
    ∃ count ≤ search.toward.size, ∃ chain,
      ((Ascent.next steps entryPoints)^[count] search).phase = .rebuilding target chain ∧
      ((Ascent.next steps entryPoints)^[count + 1] search).phase = .ended chain.reverse := by
  obtain ⟨list, toward, _⟩ := search
  subst phase
  obtain ⟨chain, leads⟩ := sound.toward.leads id sound.phase
  have few := Pointers.length_le_size sound.toward.ends leads
  refine ⟨chain.length, few, passed ++ chain, ?_, ?_⟩
  · rw [iterate_rebuilding leads]
  · rw [Function.iterate_succ_apply', iterate_rebuilding leads, next_rebuilding sound.toward.ends]

/-! ## The end -/

theorem endsWith_rebuilding {list : Worklist} {toward : Pointers} {id : ProcedureId}
    {chain : List CallSite} (ends : target ∉ toward)
    (leads : Leads toward.Points id chain target) :
    EndsWith (next steps entryPoints) answer?
      { list, toward, phase := .rebuilding id [] } chain.reverse := by
  refine .later chain.length (.step (.now ?_))
  rw [iterate_rebuilding leads, List.nil_append, next_rebuilding ends]
  rfl

/-- The trace to the first visit that is at an entry point, if there is one. -/
def traceFrom (entryPoints : List ProcedureId) (visits : List Visit) : List CallSite :=
  match visits.find? (·.procedure ∈ entryPoints) with
  | some visit => visit.path.reverse
  | none => []

theorem traceFrom_of_prefix {queue visits : List Visit} {visit : Visit}
    (ahead : queue ++ [visit] <+: visits)
    (outside : ∀ visit ∈ queue, visit.procedure ∉ entryPoints)
    (arrived : visit.procedure ∈ entryPoints) :
    traceFrom entryPoints visits = visit.path.reverse := by
  obtain ⟨rest, rfl⟩ := ahead
  have none : queue.find? (·.procedure ∈ entryPoints) = none := by
    simpa using outside
  simp [traceFrom, none, arrived]

theorem traceFrom_cons {visit : Visit} (outside : visit.procedure ∉ entryPoints)
    (visits : List Visit) :
    traceFrom entryPoints (visit :: visits) = traceFrom entryPoints visits := by
  simp [traceFrom, outside]

/-- A search and an exploration have come to the same point, and pointers lead back over the paths
of the visits. No visit has been at an entry point so far. -/
structure Matches (entryPoints : List ProcedureId) (target : ProcedureId) (others : ProcedureSet)
    (here : Visit) (queue : List Visit) (unseen : ProcedureSet) (search : Ascent) : Prop where
  sound : search.IsSound target others
  list : search.list.Matches others queue unseen
  leads : ∀ visit ∈ here :: queue, Leads search.toward.Points visit.procedure visit.path target
  outside : ∀ visit ∈ here :: queue, visit.procedure ∉ entryPoints

namespace Matches

variable {search : Ascent} {here : Visit} {queue : List Visit} {unseen : ProcedureSet}
  (matched : search.Matches entryPoints target others here queue unseen)
include matched

/-- From a procedure that was just noted, the pointers lead back as its visit says. -/
theorem leads_note {step : Step} (stands : step.destination = step.site.caller)
    (new : step.destination ∉ search.list.seen) :
    ∀ visit ∈ here :: (queue ++ [here.extend step]),
      Leads (search.note here.procedure step).toward.Points visit.procedure visit.path target := by
  intro visit member
  have unknown := matched.sound.toward.not_mem_toward new
  rw [← List.cons_append, List.mem_append] at member
  rcases member with before | last
  · exact Pointers.leads_insert unknown (matched.leads visit before)
  · obtain rfl := List.mem_singleton.mp last
    simp only [note, Visit.extend, stands] at unknown ⊢
    exact Pointers.leads_insert_caller unknown (matched.leads here List.mem_cons_self)

theorem outside_extend {step : Step} (elsewhere : step.destination ∉ entryPoints) :
    ∀ visit ∈ here :: (queue ++ [here.extend step]), visit.procedure ∉ entryPoints := by
  intro visit member
  rw [← List.cons_append, List.mem_append] at member
  rcases member with before | last
  · exact matched.outside visit before
  · obtain rfl := List.mem_singleton.mp last
    exact elsewhere

end Matches

/-- The steps from a visit are looked at one by one, until one of them leads to an entry point. -/
theorem endsWith_following (up : ∀ id, LeadUp others (steps id)) {here : Visit}
    {offered : List Step} {search : Ascent} {queue : List Visit} {unseen : ProcedureSet}
    (matched : search.Matches entryPoints target others here queue unseen)
    (phase : search.phase = .following here.procedure offered) {trace : List CallSite}
    (first : trace = traceFrom entryPoints
      (explore steps (queue ++ (discover offered unseen).1.map here.extend)
        (discover offered unseen).2))
    (after : ∀ {search : Ascent},
      search.Matches entryPoints target others here
        (queue ++ (discover offered unseen).1.map here.extend) (discover offered unseen).2 →
      search.phase = .following here.procedure [] →
      EndsWith (next steps entryPoints) answer? search trace) :
    EndsWith (next steps entryPoints) answer? search trace := by
  induction offered generalizing search queue unseen with
  | nil => exact after (by simpa [discover] using matched) phase
  | cons step offered ih =>
    have sound : (next steps entryPoints search).IsSound target others := matched.sound.next up
    have stays := matched.sound.phase
    rw [phase] at stays
    obtain ⟨_, offers⟩ := stays
    obtain ⟨⟨stands, inside⟩, -⟩ := List.forall_mem_cons.mp offers
    refine .step ?_
    simp only [next, phase] at sound ⊢
    by_cases seen : step.destination ∈ search.list.seen
    · have old : step.destination ∉ unseen := fun new =>
        ((matched.list.mem_unseen _).mp new).2 seen
      rw [if_pos seen] at sound ⊢
      rw [discover_cons_of_not_mem old] at first after
      exact ih ⟨sound, matched.list, matched.leads, matched.outside⟩ rfl first after
    · have new : step.destination ∈ unseen := (matched.list.mem_unseen _).mpr ⟨inside, seen⟩
      have leads := matched.leads_note stands seen
      rw [if_neg seen] at sound ⊢
      rw [discover_cons_of_mem new, List.map_cons, List.append_cons] at first after
      by_cases arrived : step.destination ∈ entryPoints
      · -- Of the visits to come this is the first one to an entry point.
        rw [if_pos arrived] at sound ⊢
        rw [first, traceFrom_of_prefix ((List.prefix_append _ _).trans prefix_explore)
          (List.forall_mem_cons.mp matched.outside).2 arrived]
        exact endsWith_rebuilding sound.toward.ends (leads (here.extend step) (by simp))
      · rw [if_neg arrived] at sound ⊢
        exact ih ⟨sound, matched.list.put step, leads, matched.outside_extend arrived⟩ rfl first
          after

/-- The search goes from procedure to procedure as the exploration does. -/
theorem endsWith_explore (up : ∀ id, LeadUp others (steps id)) {here : Visit} {search : Ascent}
    {queue : List Visit} {unseen : ProcedureSet}
    (matched : search.Matches entryPoints target others here queue unseen)
    (phase : search.phase = .following here.procedure []) :
    EndsWith (next steps entryPoints) answer? search
      (traceFrom entryPoints (explore steps queue unseen)) := by
  fun_induction explore steps queue unseen generalizing here search with
  | case1 unseen =>
    refine .step (.now ?_)
    simp only [next, phase, matched.list.take?_eq_none]
    rfl
  | case2 unseen first queue found =>
    rename_i ih
    obtain ⟨rest, taking, list⟩ := matched.list.take
    have outside := (List.forall_mem_cons.mp matched.outside).2
    have sound : (next steps entryPoints search).IsSound target others := matched.sound.next up
    refine .step ?_
    simp only [next, phase, taking] at sound ⊢
    rw [traceFrom_cons (outside first List.mem_cons_self)]
    exact endsWith_following up
      ⟨sound, list, (List.forall_mem_cons.mp matched.leads).2, outside⟩ rfl rfl ih

theorem matches_start (outside : target ∉ entryPoints) :
    (start entryPoints target).Matches entryPoints target others
      { procedure := target, path := [] } [{ procedure := target, path := [] }]
      (others.erase target) where
  sound := isSound_start
  list := Worklist.matches_start
  leads := by simpa using Leads.here target
  outside := by simpa using outside

theorem endsWith_start (edges : CallEdges) (scope : CallSiteSet) :
    EndsWith (next (edges.stepsUp scope) entryPoints) answer? (start entryPoints target)
      (edges.callTrace scope entryPoints target) := by
  show EndsWith _ _ _
    (traceFrom entryPoints (exploreFrom (edges.stepsUp scope) target edges.allCallers))
  by_cases atEntry : target ∈ entryPoints
  · -- The first visit is at an entry point then, but the search does not even set out.
    refine .now ?_
    rw [exploreFrom, explore, start, if_pos atEntry]
    simp [answer?, traceFrom, atEntry]
  · refine endsWith_explore (leadUp_stepsUp edges scope) (matches_start atEntry) ?_
    rw [start, if_neg atEntry]

end Ascent

end SandboxRpc
