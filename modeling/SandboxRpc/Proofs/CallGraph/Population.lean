import SandboxRpc.Proofs.CallGraph.Converse
import SandboxRpc.Proofs.CallGraph.Within

/-!
# The edges of a filled resolver

Filling the tables of a fresh resolver takes four steps: direct calls, observed edges, annotations,
and the strategy. Each step has a lemma on the callees of a call site after it:

- `mem_directEdges` for direct calls;
- `mem_calleesOf_merged` for extra edges, which count for indirect calls of the program only;
- `calleesOf_decided` for the strategy, which sees the edges as they were before it decided any.

`Subject.specifiedCallees` says what they come to, and `populate_fresh` that a filled resolver
answers accordingly.
-/

namespace SandboxRpc

open Inquiry

/-! ## Calls of a program -/

namespace Program

variable {program : Program} {site : CallSite}

theorem hasCall_of_direct {callee : ProcedureId} (direct : program.targetOf site = .direct callee) :
    program.hasCall site := by
  rw [hasCall_eq_isSome_call?]
  cases found : program.call? site with
  | none => simp [targetOf, found] at direct
  | some call => rfl

theorem mem_directEdges {id : ProcedureId} :
    (site, id) ∈ program.directEdges ↔ program.targetOf site = .direct id := by
  simp only [directEdges, List.mem_filterMap, mem_callSites]
  constructor
  · rintro ⟨other, _, edge⟩
    split at edge
    · rename_i callee direct
      obtain ⟨rfl, rfl⟩ := Prod.mk.inj (Option.some.inj edge)
      exact direct
    · cases edge
  · intro direct
    exact ⟨site, hasCall_of_direct direct, by rw [direct]⟩

theorem mem_indirectCalls :
    site ∈ program.indirectCalls ↔ program.hasCall site ∧ program.targetOf site = .indirect := by
  simp [indirectCalls]

theorem mem_annotatedEdges {id : ProcedureId} :
    (site, id) ∈ program.annotatedEdges ↔ id ∈ program.annotations.getD site [] := by
  simp only [annotatedEdges, List.mem_flatMap, List.mem_map, Prod.exists, Prod.mk.injEq,
    Std.ExtTreeMap.mem_toList_iff_getElem?_eq_some, Std.ExtTreeMap.getD_eq_getD_getElem?]
  constructor
  · rintro ⟨other, targets, known, target, member, rfl, rfl⟩
    rwa [known, Option.getD_some]
  · intro member
    cases known : program.annotations[site]? with
    | none => simp [known] at member
    | some targets =>
      rw [known, Option.getD_some] at member
      exact ⟨site, targets, known, id, member, rfl, rfl⟩

end Program

namespace CallEdges

variable {edges : CallEdges} {program : Program} {site : CallSite} {id : ProcedureId}

/-! ## Callees after a step -/

theorem mem_calleesOf_merged {extra : List CallEdge} :
    id ∈ (edges.merged program extra).calleesOf site ↔
      (site, id) ∈ extra ∧ site ∈ program.indirectCalls ∨ id ∈ edges.calleesOf site := by
  rw [merged, merge, mem_calleesOf_insertAll, List.mem_filter, Program.mem_indirectCalls,
    decide_eq_true_eq]

/-- Each of several call sites gets the callees that are decided for it; the others keep theirs. -/
theorem calleesOf_replaceAll {entries : List (CallSite × ProcedureSet)}
    (decision : CallSite → ProcedureSet) (decided : ∀ entry ∈ entries, entry.2 = decision entry.1) :
    (entries.foldl (fun edges entry => edges.replace entry.1 entry.2) edges).calleesOf site =
      if site ∈ entries.map Prod.fst then decision site else edges.calleesOf site := by
  induction entries generalizing edges with
  | nil => rfl
  | cons entry entries ih =>
    rw [List.foldl_cons, ih fun later member => decided later (List.mem_cons_of_mem _ member)]
    have first : (edges.replace entry.1 entry.2).calleesOf site =
        if entry.1 = site then decision site else edges.calleesOf site := by
      ext id
      rw [mem_calleesOf_replace, decided entry List.mem_cons_self]
      split
      · rename_i same
        rw [same]
      · rfl
    rw [first, List.map_cons]
    by_cases later : site ∈ entries.map Prod.fst
    · rw [if_pos later, if_pos (List.mem_cons_of_mem _ later)]
    · rw [if_neg later]
      by_cases same : entry.1 = site
      · rw [if_pos same, if_pos (same ▸ List.mem_cons_self)]
      · rw [if_neg same, if_neg fun member => ?_]
        rcases List.mem_cons.mp member with here | there
        · exact same here.symm
        · exact later there

/-- The targets that a strategy, if there is one, decides on. -/
def decision (strategy : Option Strategy) (program : Program) (site : CallSite)
    (found : ProcedureSet) : ProcedureSet :=
  match strategy with
  | some strategy => strategy program site found
  | none => found

/-- Every indirect call gets what the strategy says of the targets found for it before any call was
decided. -/
theorem calleesOf_decided {strategy : Option Strategy} :
    (edges.decided program strategy).calleesOf site =
      if site ∈ program.indirectCalls then decision strategy program site (edges.calleesOf site)
      else edges.calleesOf site := by
  cases strategy with
  | none => simp [decided, decision]
  | some strategy =>
    have decided : ∀ entry ∈ edges.refinements program strategy,
        entry.2 = strategy program entry.1 (edges.calleesOf entry.1) :=
      fun entry member => (mem_refinements.mp member).2.1
    rw [CallEdges.decided, refine,
      calleesOf_replaceAll (fun site => strategy program site (edges.calleesOf site)) decided]
    -- A call that the strategy leaves alone is not among the refinements.
    have refined : site ∈ (edges.refinements program strategy).map Prod.fst ↔
        site ∈ program.indirectCalls ∧
          strategy program site (edges.calleesOf site) ≠ edges.calleesOf site := by
      rw [List.mem_map]
      constructor
      · rintro ⟨entry, member, rfl⟩
        obtain ⟨indirect, value, changed⟩ := mem_refinements.mp member
        exact ⟨indirect, value ▸ changed⟩
      · rintro ⟨indirect, changed⟩
        exact ⟨(site, _), mem_refinements.mpr ⟨indirect, rfl, changed⟩, rfl⟩
    simp only [refined, decision]
    by_cases indirect : site ∈ program.indirectCalls
    · rw [if_pos indirect]
      by_cases kept : strategy program site (edges.calleesOf site) = edges.calleesOf site
      · rw [if_neg fun refinement => refinement.2 kept, kept]
      · rw [if_pos ⟨indirect, kept⟩]
    · rw [if_neg indirect, if_neg fun refinement => indirect refinement.1]

end CallEdges

/-! ## What a filled resolver knows -/

namespace Subject

variable (subject : Subject) (usesAnnotations : Bool) (strategy : Option Strategy)

/-- What is known of the targets of an indirect call before a strategy decides: those observed, and
those annotated if annotations count. -/
def foundTargets (site : CallSite) : ProcedureSet :=
  let observed := (subject.observed.found.filter (·.1 = site)).map Prod.snd
  let annotated := subject.program.annotations.getD site []
  .ofList (if usesAnnotations then observed ++ annotated else observed)

/-- What a call site should be known to invoke. -/
def specifiedCallees (site : CallSite) : ProcedureSet :=
  if subject.program.hasCall site then
    match subject.program.targetOf site with
    | .direct callee => .ofList [callee]
    | .indirect =>
      CallEdges.decision strategy subject.program site (subject.foundTargets usesAnnotations site)
  else ∅

theorem mem_foundTargets {site : CallSite} {id : ProcedureId} :
    id ∈ subject.foundTargets usesAnnotations site ↔
      (site, id) ∈ subject.observed.found ∨
        usesAnnotations = true ∧ (site, id) ∈ subject.program.annotatedEdges := by
  rw [Program.mem_annotatedEdges, foundTargets]
  cases usesAnnotations <;> simp

end Subject

/-- All procedures that a resolver can hear of are of one kind. -/
structure Subject.Supplies (subject : Subject) (ids : ProcedureId → Prop) : Prop where
  direct : ∀ site callee, subject.program.targetOf site = .direct callee → ids callee
  observed : ∀ edge ∈ subject.observed.found, ids edge.2
  annotated : ∀ edge ∈ subject.program.annotatedEdges, ids edge.2

namespace Resolver

open CallEdges

variable (resolver : Resolver) (subject : Subject)

theorem mem_calleesOf_collected {site : CallSite} {id : ProcedureId} :
    id ∈ (resolver.collected subject).calleesOf site ↔
      subject.program.targetOf site = .direct id ∨
        site ∈ subject.program.indirectCalls ∧
          id ∈ subject.foundTargets resolver.usesAnnotations site ∨
        id ∈ resolver.edges.calleesOf site := by
  rw [Subject.mem_foundTargets, collected]
  cases resolver.usesAnnotations with
  | true =>
    simp only [↓reduceIte, mem_calleesOf_merged, mem_calleesOf_insertAll, Program.mem_directEdges]
    grind
  | false =>
    simp only [Bool.false_eq_true, ↓reduceIte, mem_calleesOf_merged, mem_calleesOf_insertAll,
      Program.mem_directEdges]
    grind

section Within

variable {resolver} {subject} {ids : ProcedureId → Prop}
  (supplies : subject.Supplies ids) (within : resolver.edges.Within subject.program ids)
include supplies within

theorem within_collected : (resolver.collected subject).Within subject.program ids := by
  have direct : ∀ edge ∈ subject.program.directEdges,
      subject.program.hasCall edge.1 ∧ ids edge.2 := by
    intro edge member
    have target := Program.mem_directEdges.mp member
    exact ⟨Program.hasCall_of_direct target, supplies.direct edge.1 edge.2 target⟩
  have observed := (within.insertAll direct).merged supplies.observed
  rw [collected]
  split
  · exact observed.merged supplies.annotated
  · exact observed

theorem within_after_populate
    (stays : ∀ chosen ∈ resolver.strategy, chosen.StaysIn subject.program ids) :
    (after resolver (populate subject)).edges.Within subject.program ids := by
  cases populated : resolver.populated with
  | true =>
    rw [after_populate_of_populated resolver subject populated]
    exact within
  | false =>
    rw [after_populate_of_not_populated resolver subject populated]
    exact (within_collected supplies within).decided stays

end Within

variable (usesAnnotations : Bool) (strategy : Option Strategy)

/-- A resolver that has not been asked anything. -/
def fresh : Resolver where
  usesAnnotations := usesAnnotations
  strategy := strategy

theorem edges_after_populate_fresh :
    (after (fresh usesAnnotations strategy) (populate subject)).edges =
      ((fresh usesAnnotations strategy).collected subject).decided subject.program strategy := by
  rw [after_populate_of_not_populated _ _ rfl]
  rfl

theorem calleesOf_after_populate_fresh (site : CallSite) :
    (after (fresh usesAnnotations strategy) (populate subject)).edges.calleesOf site =
      subject.specifiedCallees usesAnnotations strategy site := by
  have collected (id : ProcedureId) :=
    @mem_calleesOf_collected (fresh usesAnnotations strategy) subject site id
  have nothing (id : ProcedureId) : id ∉ (fresh usesAnnotations strategy).edges.calleesOf site := by
    show id ∉ (∅ : CallEdges).calleesOf site
    simp
  rw [edges_after_populate_fresh, calleesOf_decided, Subject.specifiedCallees]
  cases target : subject.program.targetOf site with
  | direct callee =>
    have notIndirect : site ∉ subject.program.indirectCalls := by
      simp [Program.mem_indirectCalls, target]
    rw [if_neg notIndirect, if_pos (Program.hasCall_of_direct target)]
    ext id
    rw [collected]
    simp [target, notIndirect, nothing]
  | indirect =>
    by_cases present : subject.program.hasCall site
    · have indirect : site ∈ subject.program.indirectCalls :=
        Program.mem_indirectCalls.mpr ⟨present, target⟩
      rw [if_pos indirect, if_pos present]
      congr 1
      ext id
      rw [collected]
      simp [target, indirect, fresh]
    · have notIndirect : site ∉ subject.program.indirectCalls := fun member =>
        present (Program.mem_indirectCalls.mp member).1
      rw [if_neg notIndirect, if_neg present]
      ext id
      rw [collected]
      simp [target, notIndirect, nothing]

/-- What there is to know of a filled resolver that was fresh before. -/
theorem populate_fresh (subject : Subject) (usesAnnotations : Bool) (strategy : Option Strategy) :
    let populated := after (fresh usesAnnotations strategy) (populate subject)
    let specified := subject.specifiedCallees usesAnnotations strategy
    (∀ site, populated.edges.calleesOf site = specified site) ∧
    (∀ site, ¬ subject.program.hasCall site → site ∉ populated.edges.callees.bySource) ∧
    (∀ site, (answer populated (callees subject site)).Pairwise (compare · · = .lt) ∧
      ∀ id, id ∈ answer populated (callees subject site) ↔ id ∈ specified site) ∧
    (∀ id, (answer populated (callers subject id)).Pairwise (compare · · = .lt) ∧
      ∀ site, site ∈ answer populated (callers subject id) ↔
        id ∈ answer populated (callees subject site)) ∧
    populated.indirectTargets subject.program = subject.program.indirectCalls.map fun site =>
      (site, answer populated (callees subject site)) := by
  intro populated specified
  have cached (site : CallSite) : populated.edges.calleesOf site = specified site :=
    calleesOf_after_populate_fresh subject usesAnnotations strategy site
  have filled : after populated (populate subject) = populated :=
    after_populate_of_populated populated subject (populated_after_populate _ subject)
  have answered (site : CallSite) :
      answer populated (callees subject site) = (specified site).toList := by
    rw [answer_callees, filled]
    cases target : subject.program.targetOf site with
    | direct callee =>
      simp only [specified, Subject.specifiedCallees, target, Program.hasCall_of_direct target,
        ↓reduceIte]
      rfl
    | indirect => simp only [cached]
  have within : populated.edges.Within subject.program fun _ => True := by
    refine within_after_populate ?_ within_empty ?_
    · exact ⟨fun _ _ _ => trivial, fun _ _ => trivial, fun _ _ => trivial⟩
    · exact fun _ _ _ _ _ _ _ => trivial
  have converse : populated.edges.IsConverse := isConverse_after_populate isConverse_empty subject
  refine ⟨cached, fun site absent member =>
    absent (within.callees.sources site member), ?_, ?_, ?_⟩
  · intro site
    rw [answered]
    exact ⟨Std.ExtTreeSet.ordered_toList, fun id => Std.ExtTreeSet.mem_toList⟩
  · intro id
    rw [answer_callers, filled]
    refine ⟨Std.ExtTreeSet.ordered_toList, fun site => ?_⟩
    rw [answered, ← cached, Std.ExtTreeSet.mem_toList, Std.ExtTreeSet.mem_toList, converse site id]
  · rw [indirectTargets]
    congr 1
    funext site
    rw [answered, cached]

end Resolver

end SandboxRpc
