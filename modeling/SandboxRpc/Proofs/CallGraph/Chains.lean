import Mathlib.Data.List.Cycle
import SandboxRpc.Program.Basic

/-!
# Chains of calls

`Leads invokes source chain target` says that the calls of a chain lead from one procedure to
another. Which call may invoke what is left open, so that a chain may be one within some scope.

- A chain may be cut at any call and joined where it was cut (`leads_append`).
- One that leads back to its source is a cycle, and the other way about (`exists_leads_self_iff`).
- A shortest chain passes no procedure twice (`IsShortest.nodup`): were there a second time, what
  lies between could be left out.
-/

namespace SandboxRpc

/-- Calls that lead from one procedure to another, the outermost first: each may invoke the caller
of the next one, and the last one the procedure where they lead. -/
inductive Leads (invokes : CallSite → ProcedureId → Prop) :
    ProcedureId → List CallSite → ProcedureId → Prop where
  | here (id : ProcedureId) : Leads invokes id [] id
  | call {site : CallSite} {next target : ProcedureId} {chain : List CallSite}
      (now : invokes site next) (later : Leads invokes next chain target) :
      Leads invokes site.caller (site :: chain) target

variable {invokes : CallSite → ProcedureId → Prop} {source target : ProcedureId}
  {chain : List CallSite}

/-! ## Cutting and joining -/

theorem leads_nil : Leads invokes source [] target ↔ source = target := by
  constructor
  · intro leads
    cases leads
    rfl
  · rintro rfl
    exact .here source

theorem leads_cons {site : CallSite} :
    Leads invokes source (site :: chain) target ↔
      site.caller = source ∧ ∃ next, invokes site next ∧ Leads invokes next chain target := by
  constructor
  · intro leads
    cases leads with
    | call now later => exact ⟨rfl, _, now, later⟩
  · rintro ⟨rfl, next, now, later⟩
    exact .call now later

theorem leads_append {rest : List CallSite} :
    Leads invokes source (chain ++ rest) target ↔
      ∃ between, Leads invokes source chain between ∧ Leads invokes between rest target := by
  induction chain generalizing source with
  | nil => simp [leads_nil]
  | cons site chain ih =>
    simp only [List.cons_append, leads_cons, ih]
    grind

theorem Leads.cut {site : CallSite} {rest : List CallSite}
    (leads : Leads invokes source (chain ++ site :: rest) target) :
    Leads invokes source chain site.caller ∧ Leads invokes site.caller (site :: rest) target := by
  obtain ⟨between, first, second⟩ := leads_append.mp leads
  obtain ⟨rfl, _⟩ := leads_cons.mp second
  exact ⟨first, second⟩

theorem Leads.mono {more : CallSite → ProcedureId → Prop}
    (included : ∀ site id, invokes site id → more site id)
    (leads : Leads invokes source chain target) : Leads more source chain target := by
  induction leads with
  | here id => exact .here id
  | call now later ih => exact .call (included _ _ now) ih

/-! ## Cycles -/

/-- A chain read as a list of links, closed by a call that stands where the chain leads. -/
theorem leads_caller_iff {first last : CallSite} {rest : List CallSite} :
    Leads invokes first.caller (first :: rest) last.caller ↔
      (first :: (rest ++ [last])).IsChain fun site next => invokes site next.caller := by
  induction rest generalizing first with
  | nil => simp [leads_cons, leads_nil]
  | cons second rest ih =>
    rw [List.cons_append, List.isChain_cons_cons, ← ih, leads_cons]
    constructor
    · rintro ⟨_, next, now, later⟩
      obtain ⟨rfl, _⟩ := leads_cons.mp later
      exact ⟨now, later⟩
    · rintro ⟨now, later⟩
      exact ⟨rfl, second.caller, now, later⟩

theorem exists_leads_self_iff {id : ProcedureId} :
    (∃ chain, chain ≠ [] ∧ Leads invokes id chain id) ↔
      ∃ cycle : Cycle CallSite, cycle.Chain (fun site next => invokes site next.caller) ∧
        ∃ site ∈ cycle, site.caller = id := by
  constructor
  · rintro ⟨chain, nonempty, leads⟩
    cases leads with
    | here => exact absurd rfl nonempty
    | @call site next _ rest now later =>
      refine ⟨↑(site :: rest), ?_, site, Cycle.mem_coe_iff.mpr List.mem_cons_self, rfl⟩
      rw [Cycle.chain_coe_cons]
      exact leads_caller_iff.mp (.call now later)
  · rintro ⟨cycle, linked, site, member, rfl⟩
    induction cycle using Quotient.inductionOn with
    | h calls =>
      -- The cycle may be entered at any of its calls.
      obtain ⟨before, after, rfl⟩ := List.append_of_mem (Cycle.mem_coe_iff.mp member)
      have turned : ((before ++ site :: after : List CallSite) : Cycle CallSite) =
          ↑(site :: (after ++ before)) :=
        Cycle.coe_eq_coe.mpr List.isRotated_append
      have linked' := linked
      rw [show (Quotient.mk _ (before ++ site :: after) : Cycle CallSite) = _ from turned,
        Cycle.chain_coe_cons] at linked'
      exact ⟨_, List.cons_ne_nil _ _, leads_caller_iff.mpr linked'⟩

/-! ## Shortest chains -/

/-- No fewer calls lead from the source to the target. -/
structure IsShortest (invokes : CallSite → ProcedureId → Prop) (source : ProcedureId)
    (chain : List CallSite) (target : ProcedureId) : Prop where
  leads : Leads invokes source chain target
  least : ∀ other, Leads invokes source other target → chain.length ≤ other.length

namespace IsShortest

variable (shortest : IsShortest invokes source chain target)
include shortest

theorem caller_ne_target {site : CallSite} (member : site ∈ chain) : site.caller ≠ target := by
  rintro rfl
  -- Had it been come to earlier, the calls up to there would do.
  obtain ⟨before, after, rfl⟩ := List.append_of_mem member
  have shorter := shortest.least before shortest.leads.cut.1
  simp only [List.length_append, List.length_cons] at shorter
  omega

/-- No procedure is passed twice. -/
theorem nodup : (chain.map CallSite.caller).Nodup := by
  obtain ⟨leads, least⟩ := shortest
  induction leads with
  | here id => exact List.nodup_nil
  | @call site next target chain now later ih =>
    have rest : (chain.map CallSite.caller).Nodup := by
      refine ih fun other leads => ?_
      simpa using least (site :: other) (.call now leads)
    refine List.nodup_cons.mpr ⟨fun again => ?_, rest⟩
    -- From the second time on, the chain would do without the calls before.
    obtain ⟨other, member, same⟩ := List.mem_map.mp again
    obtain ⟨before, after, rfl⟩ := List.append_of_mem member
    have shorter := least (other :: after) (same ▸ later.cut.2)
    simp only [List.length_append, List.length_cons] at shorter
    omega

end IsShortest

/-! ## Traces -/

/-- What a call trace should be: a shortest chain from one of several entry points to a procedure
that is none of them, written innermost call first. -/
structure IsTrace (invokes : CallSite → ProcedureId → Prop) (entryPoints : List ProcedureId)
    (target : ProcedureId) (trace : List CallSite) : Prop where
  leads : ∃ entry ∈ entryPoints, Leads invokes entry trace.reverse target
  shortest : ∀ entry ∈ entryPoints, ∀ chain, Leads invokes entry chain target →
    trace.length ≤ chain.length
  distinct : (target :: trace.map CallSite.caller).Nodup
  outside : target ∉ entryPoints
  inside : ∀ site ∈ trace.dropLast, site.caller ∉ entryPoints

namespace IsTrace

variable {entryPoints : List ProcedureId} {trace : List CallSite}

/-- That a trace passes each procedure once, and no entry point on the way, is because it is
shortest. -/
theorem of_least {entry : ProcedureId} (atEntry : entry ∈ entryPoints)
    (outside : target ∉ entryPoints) (leads : Leads invokes entry chain target)
    (least : ∀ entry ∈ entryPoints, ∀ other, Leads invokes entry other target →
      chain.length ≤ other.length) : IsTrace invokes entryPoints target chain.reverse where
  leads := ⟨entry, atEntry, by rwa [List.reverse_reverse]⟩
  shortest := by simpa using least
  distinct := by
    have shortest : IsShortest invokes entry chain target := ⟨leads, least entry atEntry⟩
    rw [List.map_reverse, List.nodup_cons, List.mem_reverse, List.nodup_reverse]
    refine ⟨fun again => ?_, shortest.nodup⟩
    obtain ⟨site, member, same⟩ := List.mem_map.mp again
    exact shortest.caller_ne_target member same
  outside := outside
  inside := by
    intro site member known
    rw [List.dropLast_reverse, List.mem_reverse] at member
    cases leads with
    | here => exact outside atEntry
    | @call first next _ rest now later =>
      -- A chain from that entry point on would be shorter.
      obtain ⟨before, after, rfl⟩ := List.append_of_mem (show site ∈ rest from member)
      have shorter := least site.caller known (site :: after) later.cut.2
      simp only [List.length_append, List.length_cons] at shorter
      omega

variable (isTrace : IsTrace invokes entryPoints target trace)
include isTrace

theorem ne_nil : trace ≠ [] := by
  rintro rfl
  obtain ⟨entry, atEntry, leads⟩ := isTrace.leads
  cases leads
  exact isTrace.outside atEntry

/-- The last call of a trace stands in the entry point where the chain begins. -/
theorem leads_from_last {last : CallSite} (ends : trace.getLast? = some last) :
    last.caller ∈ entryPoints ∧ Leads invokes last.caller trace.reverse target := by
  obtain ⟨entry, atEntry, leads⟩ := isTrace.leads
  obtain ⟨inner, rfl⟩ := List.getLast?_eq_some_iff.mp ends
  rw [List.reverse_concat] at leads
  obtain ⟨rfl, _⟩ := leads_cons.mp leads
  exact ⟨atEntry, by rwa [List.reverse_concat]⟩

end IsTrace

end SandboxRpc
