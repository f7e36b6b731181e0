import SandboxRpc.CallGraph.Search
import SandboxRpc.Proofs.CallGraph.BreadthFirst
import SandboxRpc.Proofs.CallGraph.Chains
import SandboxRpc.Proofs.CallGraph.Converse

/-!
# The searches over call edges

Both searches find what chains of calls there are within a scope. The one for reachability goes
down over the calls that the program has and the callees recorded for them; the one for traces goes
up over the recorded callers. So the first needs that edges are kept for calls of the program only,
and the second that both directions of the edges agree.

- `isReachable_iff`: a procedure is reached exactly if a chain of one or more calls leads there.
- `isTrace_callTrace` and `callTrace_eq_nil_iff`: what a trace is, and when there is none.
-/

namespace SandboxRpc

namespace CallEdges

variable {edges : CallEdges} {scope : CallSiteSet}

/-- A call within a scope may invoke a procedure. -/
def Invokes (edges : CallEdges) (scope : CallSiteSet) (site : CallSite) (id : ProcedureId) : Prop :=
  site ∈ scope ∧ id ∈ edges.calleesOf site

/-! ## Reachability -/

section Down

variable {program : Program} {source target : ProcedureId}

theorem mem_stepsDown {id : ProcedureId} {step : Step} :
    step ∈ edges.stepsDown program scope id ↔
      step.site.caller = id ∧ program.hasCall step.site ∧
        edges.Invokes scope step.site step.destination := by
  simp only [stepsDown, Invokes, List.mem_flatMap, List.mem_filter, Program.mem_callsOf,
    List.mem_map, Std.ExtTreeSet.mem_toList, Std.ExtTreeSet.contains_iff_mem]
  constructor
  · rintro ⟨site, ⟨⟨stands, present⟩, within⟩, callee, known, rfl⟩
    exact ⟨stands, present, within, known⟩
  · rintro ⟨stands, present, within, known⟩
    exact ⟨step.site, ⟨⟨stands, present⟩, within⟩, step.destination, known, rfl⟩

theorem leads_of_walk_down {here : ProcedureId} {path : List CallSite}
    (walk : Walk (edges.stepsDown program scope) source here path) :
    Leads (edges.Invokes scope) source path.reverse here := by
  induction walk with
  | start => exact .here source
  | step before next ih =>
    obtain ⟨stands, _, invokes⟩ := mem_stepsDown.mp next
    rw [List.reverse_cons]
    exact leads_append.mpr ⟨_, ih, leads_cons.mpr ⟨stands, _, invokes, .here _⟩⟩

/-- A chain is a walk, and it may go on from where another walk has come to. -/
theorem walk_down_of_leads
    (present : ∀ site, ∀ id ∈ edges.calleesOf site, program.hasCall site)
    {start : ProcedureId} {chain path : List CallSite}
    (walk : Walk (edges.stepsDown program scope) start source path)
    (leads : Leads (edges.Invokes scope) source chain target) :
    Walk (edges.stepsDown program scope) start target (chain.reverse ++ path) := by
  induction leads generalizing path with
  | here id => exact walk
  | @call site next target chain now later ih =>
    have step : Step.mk site next ∈ edges.stepsDown program scope site.caller :=
      mem_stepsDown.mpr ⟨rfl, present site next now.2, now⟩
    have longer := ih (walk.step step)
    simpa using longer

theorem mem_allCallees {site : CallSite} {id : ProcedureId} (known : id ∈ edges.calleesOf site) :
    id ∈ edges.allCallees := by
  rw [allCallees, Std.ExtTreeSet.mem_ofList, List.contains_iff_mem]
  exact List.mem_map.mpr ⟨(site, id), Links.mem_toList.mpr known, rfl⟩

theorem mem_allCallees_of_mem_stepsDown {id : ProcedureId} {step : Step}
    (next : step ∈ edges.stepsDown program scope id) : step.destination ∈ edges.allCallees :=
  mem_allCallees (mem_stepsDown.mp next).2.2.2

theorem isReachable_iff (present : ∀ site, ∀ id ∈ edges.calleesOf site, program.hasCall site) :
    edges.isReachable program scope source target = true ↔
      ∃ chain, chain ≠ [] ∧ Leads (edges.Invokes scope) source chain target := by
  simp only [isReachable, List.any_eq_true, decide_eq_true_eq]
  constructor
  · rintro ⟨visit, visited, step, next, rfl⟩
    -- The last call does not count as a visit.
    have walk := (walk_of_mem_exploreFrom visited).step next
    exact ⟨_, by simp, leads_of_walk_down walk⟩
  · rintro ⟨chain, nonempty, leads⟩
    -- All calls but the last make up a walk that the search follows.
    obtain ⟨before, last, rfl⟩ := (List.eq_nil_or_concat' chain).resolve_left nonempty
    obtain ⟨here, first, rest⟩ := leads_append.mp leads
    obtain ⟨rfl, _, invokes, arrived⟩ := leads_cons.mp rest
    obtain rfl := leads_nil.mp arrived
    have walk := walk_down_of_leads present .start first
    obtain ⟨visit, visited, same, _⟩ :=
      walk.exists_visit fun _ _ => mem_allCallees_of_mem_stepsDown
    refine ⟨visit, visited, ⟨last, _⟩, ?_, rfl⟩
    exact mem_stepsDown.mpr ⟨same.symm, present last _ invokes.2, invokes⟩

end Down

/-! ## Traces -/

section Up

variable {entryPoints : List ProcedureId} {target : ProcedureId}

theorem mem_allCallers {site : CallSite} {id : ProcedureId} (known : site ∈ edges.callersOf id) :
    site.caller ∈ edges.allCallers := by
  rw [allCallers, Std.ExtTreeSet.mem_ofList, List.contains_iff_mem]
  exact List.mem_map.mpr ⟨(id, site), Links.mem_toList.mpr known, rfl⟩

/-- Whether or not the directions agree, a step up leads to the caller of its call site. -/
theorem caller_of_mem_stepsUp {id : ProcedureId} {step : Step}
    (next : step ∈ edges.stepsUp scope id) :
    step.destination = step.site.caller ∧ step.destination ∈ edges.allCallers := by
  obtain ⟨site, known, rfl⟩ := List.mem_map.mp next
  exact ⟨rfl, mem_allCallers (Std.ExtTreeSet.mem_toList.mp (List.mem_filter.mp known).1)⟩

variable (converse : edges.IsConverse)
include converse

theorem mem_stepsUp {id : ProcedureId} {step : Step} :
    step ∈ edges.stepsUp scope id ↔
      step.destination = step.site.caller ∧ edges.Invokes scope step.site id := by
  simp only [stepsUp, Invokes, List.mem_map, List.mem_filter, Std.ExtTreeSet.mem_toList,
    Std.ExtTreeSet.contains_iff_mem, ← converse _ id]
  constructor
  · rintro ⟨site, ⟨known, within⟩, rfl⟩
    exact ⟨rfl, within, known⟩
  · rintro ⟨stands, within, known⟩
    exact ⟨step.site, ⟨known, within⟩, by rw [← stands]⟩

/-- The call sites on a walk up are a chain as they stand, since the last step is the outermost. -/
theorem walk_up_iff_leads {here : ProcedureId} {path : List CallSite} :
    Walk (edges.stepsUp scope) target here path ↔
      Leads (edges.Invokes scope) here path target := by
  constructor
  · intro walk
    induction walk with
    | start => exact .here target
    | step before next ih =>
      obtain ⟨stands, invokes⟩ := (mem_stepsUp converse).mp next
      exact leads_cons.mpr ⟨stands.symm, _, invokes, ih⟩
  · intro leads
    induction leads with
    | here id => exact .start
    | @call site next target chain now later ih =>
      have step : Step.mk site site.caller ∈ edges.stepsUp scope next :=
        (mem_stepsUp converse).mpr ⟨rfl, now⟩
      exact ih.step step

theorem exists_visit_of_leads {here : ProcedureId} {chain : List CallSite}
    (leads : Leads (edges.Invokes scope) here chain target) :
    ∃ visit ∈ exploreFrom (edges.stepsUp scope) target edges.allCallers,
      visit.procedure = here ∧ visit.path.length ≤ chain.length := by
  exact ((walk_up_iff_leads converse).mpr leads).exists_visit fun _ _ next =>
    (caller_of_mem_stepsUp next).2

/-- There is no trace, for one reason or the other, or it is as it should be. -/
theorem callTrace_cases :
    edges.callTrace scope entryPoints target = [] ∧
        (target ∈ entryPoints ∨
          ¬ ∃ entry ∈ entryPoints, ∃ chain, Leads (edges.Invokes scope) entry chain target) ∨
      IsTrace (edges.Invokes scope) entryPoints target
        (edges.callTrace scope entryPoints target) := by
  rw [callTrace]
  cases found : (exploreFrom (edges.stepsUp scope) target edges.allCallers).find?
      (·.procedure ∈ entryPoints) with
  | none =>
    refine .inl ⟨rfl, .inr ?_⟩
    rintro ⟨entry, atEntry, chain, leads⟩
    obtain ⟨visit, visited, rfl, _⟩ := exists_visit_of_leads converse leads
    exact List.find?_eq_none.mp found visit visited (decide_eq_true atEntry)
  | some visit =>
    have visited := List.mem_of_find?_eq_some found
    have atEntry : visit.procedure ∈ entryPoints := by
      simpa using List.find?_some found
    have leads := (walk_up_iff_leads converse).mp (walk_of_mem_exploreFrom visited)
    have least (entry : ProcedureId) (known : entry ∈ entryPoints) (other : List CallSite)
        (leads : Leads (edges.Invokes scope) entry other target) :
        visit.path.length ≤ other.length := by
      obtain ⟨nearest, visited, rfl, near⟩ := exists_visit_of_leads converse leads
      exact Nat.le_trans (length_le_of_find? found visited (decide_eq_true known)) near
    by_cases outside : target ∈ entryPoints
    · -- From an entry point no calls are needed, and no more are taken.
      have none := least target outside [] (.here target)
      exact .inl ⟨by simpa using none, .inl outside⟩
    · exact .inr (IsTrace.of_least atEntry outside leads least)

theorem isTrace_callTrace (some : edges.callTrace scope entryPoints target ≠ []) :
    IsTrace (edges.Invokes scope) entryPoints target
      (edges.callTrace scope entryPoints target) :=
  (callTrace_cases converse).resolve_left fun none => some none.1

theorem callTrace_eq_nil_iff :
    edges.callTrace scope entryPoints target = [] ↔
      target ∈ entryPoints ∨
        ¬ ∃ entry ∈ entryPoints, ∃ chain, Leads (edges.Invokes scope) entry chain target := by
  rcases callTrace_cases converse with ⟨none, reason⟩ | isTrace
  · exact iff_of_true none reason
  · refine iff_of_false isTrace.ne_nil ?_
    rintro (inside | unreached)
    · exact isTrace.outside inside
    · obtain ⟨entry, atEntry, leads⟩ := isTrace.leads
      exact unreached ⟨entry, atEntry, _, leads⟩

/-! ## Both searches -/

variable {program : Program}
  (present : ∀ site, ∀ id ∈ edges.calleesOf site, program.hasCall site)
include present

theorem callTrace_ne_nil_iff :
    edges.callTrace scope entryPoints target ≠ [] ↔
      target ∉ entryPoints ∧
        ∃ entry ∈ entryPoints, edges.isReachable program scope entry target = true := by
  rw [ne_eq, callTrace_eq_nil_iff converse, not_or, not_not]
  refine and_congr_right fun outside => exists_congr fun entry => and_congr_right fun atEntry => ?_
  rw [isReachable_iff present]
  constructor
  · rintro ⟨chain, leads⟩
    refine ⟨chain, ?_, leads⟩
    rintro rfl
    exact outside (leads_nil.mp leads ▸ atEntry)
  · rintro ⟨chain, _, leads⟩
    exact ⟨chain, leads⟩

theorem isReachable_of_callTrace {last : CallSite}
    (ends : (edges.callTrace scope entryPoints target).getLast? = some last) :
    last.caller ∈ entryPoints ∧ edges.isReachable program scope last.caller target = true := by
  have some : edges.callTrace scope entryPoints target ≠ [] := by
    intro none
    rw [none] at ends
    cases ends
  obtain ⟨atEntry, leads⟩ := (isTrace_callTrace converse some).leads_from_last ends
  exact ⟨atEntry, (isReachable_iff present).mpr ⟨_, by simpa using some, leads⟩⟩

end Up

end CallEdges

end SandboxRpc
