import SandboxRpc.Proofs.CallGraph.Session

/-!
# Edges are seen through their views

A table of links may keep an entry for a source that is linked to nothing: it stays behind when the
last link is erased, and it might as well be put in for every indirect call as the tables are
filled. Tables that differ in such entries are not equal, but nobody can tell them apart.

- `CallEdges.LookAlike` says that edges show the same through `calleesOf` and `callersOf`. Such
  edges have the same size and are searched with the same outcome, and every change leaves them
  alike.
- Entries for nothing make no difference to that, whether they are put in with the direct calls
  (`lookAlike_enterAll`) or when targets are replaced (`lookAlike_replace`).
- `Inquiry.ReadsViews`: resolvers that look alike give an inquiry the same answer and the same
  events, and look alike afterwards. All queries and loads read views only, and so does a whole
  session (`Resolver.LookAlike.run`).
-/

namespace SandboxRpc

open Inquiry

/-! ## Links -/

namespace Links

variable {α β : Type} [Ord α] [Ord β] [Std.TransOrd α] [Std.TransOrd β] [Std.LawfulEqOrd α]
  [Std.LawfulEqOrd β]

/-- Gives a source an entry, which is empty if there was none. -/
def enter (links : Links α β) (source : α) : Links α β where
  bySource := links.bySource.alter source fun known => some (known.getD ∅)

omit [Std.TransOrd β] [Std.LawfulEqOrd β] in
theorem targets_enter (links : Links α β) (source other : α) :
    (links.enter source).targets other = links.targets other := by
  simp only [enter, targets, Std.ExtTreeMap.getD_eq_getD_getElem?, Std.ExtTreeMap.getElem?_alter]
  split
  · rename_i same
    rw [Std.LawfulEqOrd.eq_of_compare same, Option.getD_some]
  · rfl

/-- What the sources are linked to makes up the list of all links. -/
theorem perm_toList_of_targets {first second : Links α β}
    (same : ∀ source, first.targets source = second.targets source) :
    first.toList.Perm second.toList := by
  refine (List.perm_ext_iff_of_nodup first.nodup_toList second.nodup_toList).mpr ?_
  rintro ⟨source, target⟩
  rw [mem_toList, mem_toList, same]

end Links

/-! ## Edges -/

namespace CallEdges

/-- Edges that show the same in both directions. -/
structure LookAlike (first second : CallEdges) : Prop where
  callees : ∀ site, first.calleesOf site = second.calleesOf site
  callers : ∀ id, first.callersOf id = second.callersOf id

namespace LookAlike

variable {first second : CallEdges} (alike : first.LookAlike second)
include alike

/-! ### What can be asked -/

theorem size : first.size = second.size :=
  (Links.perm_toList_of_targets alike.callees).length_eq

theorem allCallees : first.allCallees = second.allCallees := by
  ext id
  have perm := Links.perm_toList_of_targets alike.callees
  simp only [CallEdges.allCallees, Std.ExtTreeSet.mem_ofList, List.contains_iff_mem]
  exact (perm.map Prod.snd).mem_iff

theorem allCallers : first.allCallers = second.allCallers := by
  ext id
  have perm := Links.perm_toList_of_targets alike.callers
  simp only [CallEdges.allCallers, Std.ExtTreeSet.mem_ofList, List.contains_iff_mem]
  exact (perm.map _).mem_iff

theorem isReachable (program : Program) (scope : CallSiteSet) (source target : ProcedureId) :
    first.isReachable program scope source target =
      second.isReachable program scope source target := by
  have steps : first.stepsDown program scope = second.stepsDown program scope := by
    funext procedure
    simp only [stepsDown, alike.callees]
  rw [CallEdges.isReachable, CallEdges.isReachable, steps, alike.allCallees]

theorem callTrace (scope : CallSiteSet) (entryPoints : List ProcedureId) (target : ProcedureId) :
    first.callTrace scope entryPoints target = second.callTrace scope entryPoints target := by
  have steps : first.stepsUp scope = second.stepsUp scope := by
    funext procedure
    rw [stepsUp, stepsUp, alike.callers]
  rw [CallEdges.callTrace, CallEdges.callTrace, steps, alike.allCallers]

theorem refinements (program : Program) (strategy : Strategy) :
    first.refinements program strategy = second.refinements program strategy := by
  simp only [CallEdges.refinements, alike.callees]

theorem events_refine (program : Program) (strategy : Strategy) :
    (first.refine program strategy).events = (second.refine program strategy).events := by
  rw [refine, refine, alike.refinements]

/-! ### Changes -/

theorem insertAll (new : List CallEdge) :
    (first.insertAll new).LookAlike (second.insertAll new) where
  callees site := by
    ext id
    rw [mem_calleesOf_insertAll, mem_calleesOf_insertAll, alike.callees]
  callers id := by
    ext site
    rw [mem_callersOf_insertAll, mem_callersOf_insertAll, alike.callers]

theorem eraseSite (site : CallSite) : (first.eraseSite site).LookAlike (second.eraseSite site) where
  callees other := by
    ext id
    rw [mem_calleesOf_eraseSite, mem_calleesOf_eraseSite, alike.callees]
  callers id := by
    ext other
    rw [mem_callersOf_eraseSite, mem_callersOf_eraseSite, alike.callees, alike.callers]

theorem replace (site : CallSite) (targets : ProcedureSet) :
    (first.replace site targets).LookAlike (second.replace site targets) :=
  (alike.eraseSite site).insertAll _

theorem replaceAll (entries : List (CallSite × ProcedureSet)) :
    (entries.foldl (fun edges entry => edges.replace entry.1 entry.2) first).LookAlike
      (entries.foldl (fun edges entry => edges.replace entry.1 entry.2) second) := by
  induction entries generalizing first second with
  | nil => exact alike
  | cons entry entries ih => exact ih (alike.replace entry.1 entry.2)

theorem decided (program : Program) (strategy : Option Strategy) :
    (first.decided program strategy).LookAlike (second.decided program strategy) := by
  cases strategy with
  | none => exact alike
  | some strategy =>
    rw [CallEdges.decided, CallEdges.decided, refine, refine, alike.refinements]
    exact alike.replaceAll _

end LookAlike

/-! ### Entries for nothing -/

/-- Gives a call site an entry, which is empty if there was none. -/
def enter (edges : CallEdges) (site : CallSite) : CallEdges :=
  { edges with callees := edges.callees.enter site }

theorem lookAlike_enter (edges : CallEdges) (site : CallSite) :
    (edges.enter site).LookAlike edges where
  callees := edges.callees.targets_enter site
  callers _ := rfl

/-- Entries for any call sites, say for all indirect calls of a program, are not to be seen. -/
theorem lookAlike_enterAll (edges : CallEdges) (sites : List CallSite) :
    (sites.foldl enter edges).LookAlike edges := by
  induction sites generalizing edges with
  | nil => exact ⟨fun _ => rfl, fun _ => rfl⟩
  | cons site sites ih =>
    have one := edges.lookAlike_enter site
    have rest := ih (edges.enter site)
    exact ⟨fun other => (rest.callees other).trans (one.callees other),
      fun id => (rest.callers id).trans (one.callers id)⟩

/-- To leave an erased call site an entry, and only then to put in its new targets, comes to the
same as replacing its targets. -/
theorem lookAlike_replace (edges : CallEdges) (site : CallSite) (targets : ProcedureSet) :
    (((edges.eraseSite site).enter site).insertAll (targets.toList.map (site, ·))).LookAlike
      (edges.replace site targets) :=
  ((edges.eraseSite site).lookAlike_enter site).insertAll _

end CallEdges

/-! ## Resolvers -/

/-- Resolvers whose edges look alike, and that are the same otherwise. -/
structure Resolver.LookAlike (first second : Resolver) : Prop where
  usesAnnotations : first.usesAnnotations = second.usesAnnotations
  strategy : first.strategy = second.strategy
  populated : first.populated = second.populated
  edges : first.edges.LookAlike second.edges
  scopes : first.scopes = second.scopes

namespace Inquiry

variable {α β : Type}

/-- Two results that tell the same, and leave resolvers that look alike. -/
structure TellAlike (first second : Logged (α × Resolver)) : Prop where
  answer : first.value.1 = second.value.1
  events : first.events = second.events
  resolver : first.value.2.LookAlike second.value.2

/-- An inquiry that makes no difference between resolvers that look alike. -/
structure ReadsViews (inquiry : Inquiry α) : Prop where
  same : ∀ {first second : Resolver}, first.LookAlike second →
    TellAlike (inquiry.run first) (inquiry.run second)

namespace ReadsViews

theorem pure (value : α) : ReadsViews (pure value) where
  same alike := ⟨rfl, rfl, alike⟩

theorem liftM (result : Logged α) : ReadsViews (liftM result : Inquiry α) where
  same alike := ⟨rfl, rfl, alike⟩

theorem bind {inquiry : Inquiry α} {next : α → Inquiry β} (now : ReadsViews inquiry)
    (later : ∀ value, ReadsViews (next value)) : ReadsViews (inquiry >>= next) where
  same {first second} alike := by
    have here := now.same alike
    -- What comes next is the same inquiry, put to resolvers that look alike.
    have answered : answer second inquiry = answer first inquiry := here.answer.symm
    have there := (later (answer first inquiry)).same here.resolver
    have told : TellAlike ((next (answer first inquiry)).run (after first inquiry))
        ((next (answer second inquiry)).run (after second inquiry)) := answered ▸ there
    exact ⟨told.answer, congrArg₂ (· ++ ·) here.events told.events, told.resolver⟩

/-- What is read off a resolver has to be the same for resolvers that look alike. -/
theorem get_bind {next : Resolver → Inquiry α} (later : ∀ resolver, ReadsViews (next resolver))
    (same : ∀ {first second : Resolver}, first.LookAlike second → next first = next second) :
    ReadsViews (get >>= next) where
  same {first second} alike := by
    show TellAlike ((next first).run first) ((next second).run second)
    rw [same alike]
    exact (later second).same alike

theorem map {inquiry : Inquiry α} (reads : ReadsViews inquiry) (f : α → β) :
    ReadsViews (f <$> inquiry) where
  same alike := by
    have told := reads.same alike
    exact ⟨congrArg f told.answer, congrArg (· ++ []) told.events, told.resolver⟩

theorem mapM {step : α → Inquiry β} (each : ∀ item, ReadsViews (step item)) (items : List α) :
    ReadsViews (items.mapM step) := by
  induction items with
  | nil => exact pure []
  | cons item items ih =>
    rw [List.mapM_cons]
    exact (each item).bind fun first => ih.bind fun rest => pure (first :: rest)

/-! ### Loads -/

variable (subject : Subject)

theorem mergeEdges (program : Program) (origin : EdgeOrigin) (extra : List CallEdge) :
    ReadsViews (Resolver.mergeEdges program origin extra) where
  same {first second} alike := by
    have merged := alike.edges.insertAll <|
      extra.filter fun edge => program.hasCall edge.1 ∧ program.targetOf edge.1 = .indirect
    exact ⟨congrArg₂ (· - ·) merged.size alike.edges.size, rfl, { alike with edges := merged }⟩

theorem loadObserved : ReadsViews (Resolver.loadObserved subject) := by
  rw [Resolver.loadObserved]
  cases subject.observed with
  | unconfigured => exact liftM _
  | failed source cause => exact liftM _
  | edges source found =>
    exact (liftM found).bind fun extra => (mergeEdges subject.program .trace extra).bind fun _ =>
      liftM _

theorem loadAnnotated : ReadsViews (Resolver.loadAnnotated subject) :=
  (mergeEdges subject.program .declared _).bind fun _ => liftM _

theorem loadDirect : ReadsViews (Resolver.loadDirect subject) where
  same alike := ⟨rfl, rfl, { alike with edges := alike.edges.insertAll _ }⟩

theorem applyStrategy : ReadsViews (Resolver.applyStrategy subject) where
  same {first second} alike := by
    refine ⟨rfl, ?_, ?_⟩
    · simp only [Resolver.applyStrategy, StateT.run_bind, StateT.run_get, pure_bind, alike.strategy]
      cases second.strategy with
      | none => rfl
      | some strategy =>
        show (first.edges.refine subject.program strategy).events ++ [] ++ [] =
          (second.edges.refine subject.program strategy).events ++ [] ++ []
        rw [alike.edges.events_refine]
    · show (after first _).LookAlike (after second _)
      rw [Resolver.after_applyStrategy, Resolver.after_applyStrategy, alike.strategy]
      exact { alike with strategy := rfl, edges := alike.edges.decided subject.program _ }

theorem populate : ReadsViews (Resolver.populate subject) := by
  rw [Resolver.populate]
  refine get_bind (fun resolver => ?_) fun alike => by rw [alike.populated, alike.usesAnnotations]
  have rest (directEdges : Nat) : ReadsViews (do
      Resolver.applyStrategy subject
      modify ({ · with populated := true })
      Logged.note <| .callGraphPopulated directEdges (← get).edges.size
        subject.program.indirectCalls.length : Inquiry PUnit) := by
    refine (applyStrategy subject).bind fun _ => bind ⟨fun alike => ?_⟩ fun _ => ?_
    · exact ⟨rfl, rfl, { alike with populated := rfl }⟩
    · exact get_bind (fun _ => liftM _) fun alike => by rw [alike.edges.size]
  cases resolver.populated with
  | true => exact pure _
  | false =>
    refine (loadDirect subject).bind fun _ => get_bind (fun direct => ?_) fun alike => by
      simp only [alike.edges.size]
    refine (loadObserved subject).bind fun _ => ?_
    cases resolver.usesAnnotations with
    | true => exact (loadAnnotated subject).bind fun _ => rest direct.edges.size
    | false => exact rest direct.edges.size

/-! ### Queries -/

theorem scopeOf (context : Context) : ReadsViews (Resolver.scopeOf subject context) where
  same {first second} alike := by
    simp only [Resolver.scopeOf, StateT.run_bind, StateT.run_get, pure_bind]
    rw [alike.scopes]
    cases second.scopes[context]? with
    | some scope => exact ⟨rfl, rfl, alike⟩
    | none => exact ⟨rfl, rfl, { alike with scopes := rfl }⟩

theorem callees (site : CallSite) : ReadsViews (Resolver.callees subject site) := by
  rw [Resolver.callees]
  refine (populate subject).bind fun _ => ?_
  cases subject.program.targetOf site with
  | direct callee => exact pure [callee]
  | indirect => exact get_bind (fun _ => pure _) fun alike => by rw [alike.edges.callees]

theorem callers (id : ProcedureId) : ReadsViews (Resolver.callers subject id) :=
  (populate subject).bind fun _ =>
    get_bind (fun _ => pure _) fun alike => by rw [alike.edges.callers]

theorem isReachable (source target : ProcedureId) (context : Context) :
    ReadsViews (Resolver.isReachable subject source target context) :=
  (populate subject).bind fun _ => (scopeOf subject context).bind fun _ =>
    get_bind (fun _ => pure _) fun alike => by rw [alike.edges.isReachable]

theorem callTrace (target : ProcedureId) (context : Context) :
    ReadsViews (Resolver.callTrace subject target context) :=
  (populate subject).bind fun _ => (scopeOf subject context).bind fun _ =>
    get_bind (fun _ => pure _) fun alike => by rw [alike.edges.callTrace]

end ReadsViews

end Inquiry

/-! ## Sessions -/

namespace Resolver

namespace LookAlike

variable {first second : Resolver} (alike : first.LookAlike second)
include alike

theorem next (subject : Subject) (use : Use) :
    (use.next first subject).LookAlike (use.next second subject) := by
  cases use with
  | populate => exact ((ReadsViews.populate subject).same alike).resolver
  | loadObserved => exact ((ReadsViews.loadObserved subject).same alike).resolver
  | loadAnnotated => exact ((ReadsViews.loadAnnotated subject).same alike).resolver
  | callees site => exact ((ReadsViews.callees subject site).same alike).resolver
  | callers id => exact ((ReadsViews.callers subject id).same alike).resolver
  | isReachable source target context =>
    exact ((ReadsViews.isReachable subject source target context).same alike).resolver
  | callTrace target context =>
    exact ((ReadsViews.callTrace subject target context).same alike).resolver

/-- Whatever a session does, resolvers that looked alike before it do so after it. -/
theorem run (uses : List (Subject × Use)) :
    (first.run uses).LookAlike (second.run uses) := by
  induction uses generalizing first second with
  | nil => exact alike
  | cons use uses ih => exact ih (alike.next use.1 use.2)

end LookAlike

end Resolver

end SandboxRpc
