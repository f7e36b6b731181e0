import SandboxRpc.Proofs.CallGraph.Session
import SandboxRpc.Proofs.CallGraph.Transparency

/-!
# Loading edges by hand

Observed and annotated edges are merged when the tables are filled, but they may also be loaded on
their own, before or after. `run_loads` says that this changes nothing, as long as the strategy
keeps what was found for a call.

- Before the tables are filled, an early load only puts in what comes in anyway. The edges are in a
  normal form (`CallEdges.IsCanonical`), so it does not show either that they came early.
- Afterwards, all that a late load could add is there already (`CallEdges.insertAll_of_mem`).
-/

namespace SandboxRpc

open Inquiry

/-! ## Links in normal form -/

namespace Links

variable {α β : Type} [Ord α] [Ord β] [Std.TransOrd α] [Std.TransOrd β]

/-- There is no entry for a source that is linked to nothing. -/
def IsTight (links : Links α β) : Prop :=
  ∀ source : α, links.bySource[source]? ≠ some (∅ : Std.ExtTreeSet β)

omit [Std.TransOrd β] in
theorem isTight_empty : (∅ : Links α β).IsTight := by
  intro source entry
  have none : (∅ : Links α β).bySource[source]? = none := Std.ExtTreeMap.getElem?_empty
  rw [none] at entry
  cases entry

variable [Std.LawfulEqOrd α] [Std.LawfulEqOrd β] {links : Links α β}

omit [Std.LawfulEqOrd β] in
theorem IsTight.insert (tight : links.IsTight) (source : α) (target : β) :
    (links.insert source target).IsTight := by
  intro other
  by_cases same : source = other
  · subst same
    simp [Links.insert]
  · simp only [Links.insert, Std.ExtTreeMap.getElem?_alter, Std.LawfulEqOrd.compare_eq_iff_eq, same,
      if_false]
    exact tight other

omit [Std.LawfulEqOrd α] in
/-- In normal form, what a source is linked to tells whether it has an entry. -/
theorem IsTight.getElem?_bySource (tight : links.IsTight) (source : α) :
    links.bySource[source]? =
      if links.targets source = ∅ then none else some (links.targets source) := by
  have known := tight source
  rw [targets, Std.ExtTreeMap.getD_eq_getD_getElem?]
  cases entry : links.bySource[source]? with
  | none => rfl
  | some set =>
    rw [entry] at known
    rw [Option.getD_some, if_neg fun empty => known (congrArg some empty)]

theorem IsTight.ext {other : Links α β} (tight : links.IsTight) (tight' : other.IsTight)
    (same : ∀ source, links.targets source = other.targets source) : links = other := by
  have bySource : links.bySource = other.bySource := by
    refine Std.ExtTreeMap.ext_getElem? fun source => ?_
    rw [tight.getElem?_bySource, tight'.getElem?_bySource, same]
  cases links
  cases other
  exact congrArg _ bySource

/-- To link a source once more to a target of it changes nothing. -/
theorem insert_of_mem {source : α} {target : β} (known : target ∈ links.targets source) :
    links.insert source target = links := by
  have bySource : (links.insert source target).bySource = links.bySource := by
    refine Std.ExtTreeMap.ext_getElem? fun other => ?_
    rw [targets, Std.ExtTreeMap.getD_eq_getD_getElem?] at known
    by_cases same : source = other
    · subst same
      cases entry : links.bySource[source]? with
      | none => simp [entry] at known
      | some set =>
        rw [entry, Option.getD_some] at known
        have kept : set.insert target = set := by
          ext id
          simp only [Std.ExtTreeSet.mem_insert, Std.LawfulEqOrd.compare_eq_iff_eq]
          grind
        simp [Links.insert, entry, kept]
    · simp [Links.insert, Std.ExtTreeMap.getElem?_alter, same]
  cases links
  exact congrArg _ bySource

end Links

namespace CallEdges

/-- Both directions tell the same edges, without entries for nothing. -/
structure IsCanonical (edges : CallEdges) : Prop where
  converse : edges.IsConverse
  callees : edges.callees.IsTight
  callers : edges.callers.IsTight

theorem isCanonical_empty : (∅ : CallEdges).IsCanonical :=
  ⟨isConverse_empty, Links.isTight_empty, Links.isTight_empty⟩

namespace IsCanonical

variable {edges : CallEdges} (canonical : edges.IsCanonical)
include canonical

theorem insertAll (new : List CallEdge) : (edges.insertAll new).IsCanonical := by
  induction new generalizing edges with
  | nil => exact canonical
  | cons edge new ih =>
    exact ih {
      converse := canonical.converse.insertAll [edge]
      callees := canonical.callees.insert edge.1 edge.2
      callers := canonical.callers.insert edge.2 edge.1 }

theorem merged (program : Program) (extra : List CallEdge) :
    (edges.merged program extra).IsCanonical :=
  canonical.insertAll _

/-- Canonical edges are told apart by the callees of the call sites. -/
theorem ext {other : CallEdges} (canonical' : other.IsCanonical)
    (same : ∀ site, edges.calleesOf site = other.calleesOf site) : edges = other := by
  have back (id : ProcedureId) : edges.callersOf id = other.callersOf id := by
    ext site
    rw [← canonical.converse site id, ← canonical'.converse site id, same]
  have callees : edges.callees = other.callees := canonical.callees.ext canonical'.callees same
  have callers : edges.callers = other.callers := canonical.callers.ext canonical'.callers back
  cases edges
  cases other
  exact congr (congrArg CallEdges.mk callees) callers

end IsCanonical

/-- To add edges that are there changes nothing. -/
theorem insertAll_of_mem {edges : CallEdges} (converse : edges.IsConverse) {new : List CallEdge}
    (known : ∀ edge ∈ new, edge.2 ∈ edges.calleesOf edge.1) : edges.insertAll new = edges := by
  induction new with
  | nil => rfl
  | cons edge new ih =>
    have callee := known edge List.mem_cons_self
    have caller := (converse edge.1 edge.2).mp callee
    have here : edges.insert edge = edges := by
      rw [insert, Links.insert_of_mem callee, Links.insert_of_mem caller]
    have rest := ih fun later member => known later (List.mem_cons_of_mem _ member)
    rwa [insertAll, List.foldl_cons, here]

end CallEdges

/-! ## Strategies that keep what was found -/

namespace Strategy

/-- A strategy may add targets to those found for a call but takes none away. -/
def Keeps (program : Program) (strategy : Strategy) : Prop :=
  ∀ site found, ∀ id ∈ found, id ∈ strategy program site found

theorem keeps_addressTaken (program : Program) : addressTaken.Keeps program := by
  intro site found id member
  have some : found.isEmpty = false := by
    cases empty : found.isEmpty with
    | true => simp [Std.ExtTreeSet.isEmpty_iff.mp empty] at member
    | false => rfl
  simpa [addressTaken, some] using member

end Strategy

/-! ## Sessions with loads -/

namespace Resolver

/-- A use that fills the tables if they are not filled: any but a mere load. -/
def Use.fills : Use → Bool
  | loadObserved | loadAnnotated => false
  | _ => true

theorem populated_next {resolver : Resolver} (populated : resolver.populated = true)
    (subject : Subject) (use : Use) : (use.next resolver subject).populated = true :=
  use.preserves (fun resolver => resolver.populated = true)
    (fun resolver _ => populated_after_populate resolver subject)
    (fun _ _ _ populated => populated) (fun _ _ populated => populated) resolver populated

theorem populated_next_of_fills {use : Use} (fills : use.fills) (resolver : Resolver)
    (subject : Subject) : (use.next resolver subject).populated = true := by
  cases use with
  | loadObserved => cases fills
  | loadAnnotated => cases fills
  | isReachable source target context =>
    rw [Use.next, after_isReachable, after_scopeOf]
    exact populated_after_populate resolver subject
  | callTrace target context =>
    rw [Use.next, after_callTrace, after_scopeOf]
    exact populated_after_populate resolver subject
  | callees site =>
    rw [Use.next, after_callees]
    exact populated_after_populate resolver subject
  | _ => exact populated_after_populate resolver subject

theorem populated_run {resolver : Resolver} {uses : List (Subject × Use)}
    (fills : ∃ use ∈ uses, use.2.fills) : (resolver.run uses).populated = true := by
  obtain ⟨use, member, fills⟩ := fills
  obtain ⟨before, later, rfl⟩ := List.append_of_mem member
  rw [run, List.foldl_append, List.foldl_cons]
  exact preserves_run (fun resolver => resolver.populated = true)
    (fun use _ _ populated => populated_next populated use.1 use.2)
    (populated_next_of_fills fills _ use.1)

/-- How far a session with loads has come: either only edges are loaded that come in anyway, or the
tables are filled with what they should be. -/
structure OnTheWay (subject : Subject) (chosen : Option Strategy) (resolver : Resolver) :
    Prop where
  usesAnnotations : resolver.usesAnnotations = true
  strategy : resolver.strategy = chosen
  early : resolver.populated = false → resolver.edges.IsCanonical ∧
    ∀ site, ∀ id ∈ resolver.edges.calleesOf site,
      site ∈ subject.program.indirectCalls ∧ id ∈ subject.foundTargets true site
  filled : resolver.populated = true →
    resolver.edges = (after (fresh true chosen) (populate subject)).edges

theorem onTheWay_fresh (subject : Subject) (strategy : Option Strategy) :
    OnTheWay subject strategy (fresh true strategy) where
  usesAnnotations := rfl
  strategy := rfl
  early _ := by
    refine ⟨CallEdges.isCanonical_empty, fun site id member => ?_⟩
    have none : id ∉ (∅ : CallEdges).calleesOf site := by simp
    exact absurd member none
  filled populated := by cases populated

theorem isCanonical_collected {resolver : Resolver} (canonical : resolver.edges.IsCanonical)
    (subject : Subject) : (resolver.collected subject).IsCanonical := by
  have observed := (canonical.insertAll subject.program.directEdges).merged subject.program
    subject.observed.found
  rw [collected]
  split
  · exact observed.merged subject.program subject.program.annotatedEdges
  · exact observed

namespace OnTheWay

variable {subject : Subject} {strategy : Option Strategy} {resolver : Resolver}
  (onTheWay : OnTheWay subject strategy resolver)
include onTheWay

/-- What was loaded early does not show in what is collected. -/
theorem collected_eq (unfilled : resolver.populated = false) :
    resolver.collected subject = (fresh true strategy).collected subject := by
  obtain ⟨canonical, known⟩ := onTheWay.early unfilled
  refine (isCanonical_collected canonical subject).ext
    (isCanonical_collected CallEdges.isCanonical_empty subject) fun site => ?_
  ext id
  rw [mem_calleesOf_collected, mem_calleesOf_collected, onTheWay.usesAnnotations]
  have nothing : id ∉ (fresh true strategy).edges.calleesOf site := by
    show id ∉ (∅ : CallEdges).calleesOf site
    simp
  have early := known site id
  simp only [fresh] at nothing ⊢
  grind

theorem filledEdges_eq :
    resolver.filledEdges subject = (after (fresh true strategy) (populate subject)).edges := by
  cases populated : resolver.populated with
  | true =>
    rw [filledEdges, if_pos populated]
    exact onTheWay.filled populated
  | false =>
    rw [filledEdges, populated, if_neg Bool.false_ne_true, onTheWay.collected_eq populated,
      onTheWay.strategy, edges_after_populate_fresh]

theorem populate : OnTheWay subject strategy (after resolver (Resolver.populate subject)) := by
  rw [after_populate]
  exact {
    usesAnnotations := onTheWay.usesAnnotations
    strategy := onTheWay.strategy
    early := fun unfilled => by cases unfilled
    filled := fun _ => onTheWay.filledEdges_eq }

/-- Edges that were found anyway may be merged at any time: early ones are collected later, and late
ones are known, since the strategy has kept them. -/
theorem merge (keeps : ∀ chosen ∈ strategy, chosen.Keeps subject.program) {extra : List CallEdge}
    (found : ∀ edge ∈ extra, edge.2 ∈ subject.foundTargets true edge.1) :
    OnTheWay subject strategy
      { resolver with edges := resolver.edges.merged subject.program extra } where
  usesAnnotations := onTheWay.usesAnnotations
  strategy := onTheWay.strategy
  early unfilled := by
    obtain ⟨canonical, known⟩ := onTheWay.early unfilled
    refine ⟨canonical.merged subject.program extra, fun site id member => ?_⟩
    have merged : id ∈ (resolver.edges.merged subject.program extra).calleesOf site := member
    rw [CallEdges.mem_calleesOf_merged] at merged
    rcases merged with ⟨added, indirect⟩ | old
    · exact ⟨indirect, found (site, id) added⟩
    · exact known site id old
  filled populated := by
    have edges := onTheWay.filled populated
    have converse : resolver.edges.IsConverse :=
      edges ▸ isConverse_after_populate CallEdges.isConverse_empty subject
    have kept : resolver.edges.merged subject.program extra = resolver.edges := by
      refine CallEdges.insertAll_of_mem converse fun edge member => ?_
      rw [List.mem_filter, decide_eq_true_eq] at member
      obtain ⟨added, present, indirect⟩ := member
      have known := found edge added
      rw [edges, calleesOf_after_populate_fresh, Subject.specifiedCallees, if_pos present, indirect]
      cases strategy with
      | none => exact known
      | some chosen => exact keeps chosen rfl edge.1 _ edge.2 known
    exact kept.trans edges

theorem run (keeps : ∀ chosen ∈ strategy, chosen.Keeps subject.program)
    (uses : List (Partition × Use)) :
    OnTheWay subject strategy
      (resolver.run (uses.map fun use => ({ subject with partition := use.1 }, use.2))) := by
  refine preserves_run (OnTheWay subject strategy) ?_ onTheWay
  intro use member
  obtain ⟨⟨partition, asked⟩, _, rfl⟩ := List.mem_map.mp member
  refine Use.preserves (OnTheWay subject strategy) ?_ ?_ ?_ asked
  · -- The tables are filled with the same edges, whatever the partition.
    exact fun _ onTheWay => onTheWay.populate
  · intro extra origin resolver onTheWay
    refine onTheWay.merge keeps fun edge added => ?_
    rw [Subject.mem_foundTargets]
    rcases origin with rfl | rfl
    · exact .inl added
    · exact .inr ⟨rfl, added⟩
  · exact fun _ _ onTheWay =>
      ⟨onTheWay.usesAnnotations, onTheWay.strategy, onTheWay.early, onTheWay.filled⟩

end OnTheWay

/-- Loads by hand change nothing. Let a session have a fixed program and fixed observations, and a
strategy, if any, that keeps what was found for a call. If the tables are filled at some point of
it, the edges in the end are those of a resolver that did nothing but fill its tables. The
address-taken strategy is one that keeps what was found. -/
theorem run_loads (program : Program) :
    Strategy.addressTaken.Keeps program ∧
    ∀ (observed : Observation) (strategy : Option Strategy),
      (∀ chosen ∈ strategy, chosen.Keeps program) →
      ∀ uses : List (Partition × Use), (∃ use ∈ uses, use.2.fills) →
      ∀ partition : Partition,
        ((fresh true strategy).run (uses.map fun use =>
          ({ program, partition := use.1, observed }, use.2))).edges =
        (after (fresh true strategy) (populate { program, partition, observed })).edges := by
  refine ⟨Strategy.keeps_addressTaken program, ?_⟩
  intro observed strategy keeps uses fills partition
  have onTheWay : OnTheWay { program, partition, observed } strategy _ :=
    (onTheWay_fresh { program, partition, observed } strategy).run keeps uses
  refine onTheWay.filled (populated_run ?_)
  obtain ⟨use, member, fills⟩ := fills
  exact ⟨_, List.mem_map_of_mem member, fills⟩

/-- Annotations are loaded before the first query and observed edges after it. -/
theorem run_loads_around_query :
    let procedures : Array Procedure := #[
      { name := "main", arity := none, calls := #[⟨.indirect, []⟩, ⟨.indirect, [.function ⟨1⟩]⟩] },
      { name := "helper", arity := none }]
    let program := Program.annotate { procedures } ⟨⟨0⟩, 0⟩ [⟨1⟩, ⟨0⟩]
    let observed : Observation := .edges "trace" (pure [(⟨⟨0⟩, 0⟩, ⟨0⟩)])
    let strategy := some Strategy.addressTaken
    let uses : List (Partition × Use) :=
      [({}, .loadAnnotated), ({ privileged := [⟨0⟩] }, .callers ⟨1⟩), ({}, .loadObserved)]
    (∀ chosen ∈ strategy, chosen.Keeps program) ∧ (∃ use ∈ uses, use.2.fills) ∧
      ((fresh true strategy).run (uses.map fun use =>
        ({ program, partition := use.1, observed }, use.2))).edges =
      (after (fresh true strategy) (populate { program, partition := {}, observed })).edges := by
  intro procedures program observed strategy uses
  have keeps : ∀ chosen ∈ strategy, chosen.Keeps program := by
    intro chosen same
    obtain rfl := Option.some.inj same
    exact (run_loads program).1
  have fills : ∃ use ∈ uses, use.2.fills :=
    ⟨_, List.mem_cons_of_mem _ List.mem_cons_self, rfl⟩
  exact ⟨keeps, fills, (run_loads program).2 observed strategy keeps uses fills {}⟩

end Resolver

end SandboxRpc
