import SandboxRpc.Proofs.CallGraph.Inquiry

/-!
# What a resolver learns cannot be seen

A query fills the tables of a resolver and learns the scope of a context, but it does not change the
answers to later ones. Two resolvers agree on a subject if they come to the same edges once they are
filled, and to the same scope for every context. An inquiry is steady if resolvers that agree give
it the same answer, and if it leaves a resolver that agrees with the one it found.

Steady inquiries are closed under what inquiries are composed of. In particular, when one is put for
each item of a list, every answer is the one that the resolver would have given at the start
(`answer_mapM`).
-/

namespace SandboxRpc

open Inquiry

namespace Resolver

variable (resolver : Resolver) (subject : Subject)

/-! ## Answers -/

/-- The edges of a resolver once its tables are filled. -/
def filledEdges : CallEdges :=
  if resolver.populated then resolver.edges
  else (resolver.collected subject).decided subject.program resolver.strategy

/-- The scope of a context, from before if the context was asked about. -/
def knownScope (context : Context) : CallSiteSet :=
  resolver.scopes[context]?.getD (subject.partition.scope subject.program context)

theorem after_populate :
    after resolver (populate subject) =
      { resolver with populated := true, edges := resolver.filledEdges subject } := by
  cases populated : resolver.populated with
  | true =>
    rw [after_populate_of_populated resolver subject populated, filledEdges, if_pos populated]
    cases resolver
    cases populated
    rfl
  | false =>
    rw [after_populate_of_not_populated resolver subject populated, filledEdges, if_neg]
    rw [populated]
    exact Bool.false_ne_true

theorem answer_scopeOf (context : Context) :
    answer resolver (scopeOf subject context) = resolver.knownScope subject context := by
  cases known : resolver.scopes[context]? with
  | none => simp [scopeOf, knownScope, known]
  | some scope => simp [scopeOf, knownScope, known]

theorem answer_isReachable (source target : ProcedureId) (context : Context) :
    answer resolver (isReachable subject source target context) =
      (resolver.filledEdges subject).isReachable subject.program
        (resolver.knownScope subject context) source target := by
  show (after (after resolver (populate subject)) (scopeOf subject context)).edges.isReachable _
    (answer (after resolver (populate subject)) (scopeOf subject context)) source target = _
  rw [after_scopeOf, answer_scopeOf, after_populate]
  rfl

theorem answer_callTrace (target : ProcedureId) (context : Context) :
    answer resolver (callTrace subject target context) =
      (resolver.filledEdges subject).callTrace (resolver.knownScope subject context)
        (subject.partition.entryPointsOf context) target := by
  show (after (after resolver (populate subject)) (scopeOf subject context)).edges.callTrace
    (answer (after resolver (populate subject)) (scopeOf subject context)) _ target = _
  rw [after_scopeOf, answer_scopeOf, after_populate]
  rfl

/-! ## Agreement -/

/-- Two resolvers come to the same edges and scopes, whatever they have learnt so far. -/
structure Agree (subject : Subject) (first second : Resolver) : Prop where
  edges : first.filledEdges subject = second.filledEdges subject
  scopes : first.knownScope subject = second.knownScope subject

namespace Agree

variable {subject : Subject} {first second third : Resolver}

theorem refl (resolver : Resolver) : Agree subject resolver resolver := ⟨rfl, rfl⟩

theorem symm (agree : Agree subject first second) : Agree subject second first :=
  ⟨agree.edges.symm, agree.scopes.symm⟩

theorem trans (now : Agree subject first second) (later : Agree subject second third) :
    Agree subject first third :=
  ⟨now.edges.trans later.edges, now.scopes.trans later.scopes⟩

end Agree

theorem agree_after_populate : Agree subject (after resolver (populate subject)) resolver := by
  rw [after_populate]
  exact ⟨if_pos rfl, rfl⟩

theorem agree_after_scopeOf (context : Context) :
    Agree subject (after resolver (scopeOf subject context)) resolver := by
  rw [after_scopeOf]
  refine ⟨rfl, funext fun asked => ?_⟩
  cases known : resolver.scopes[context]? with
  | some scope => rfl
  | none =>
    simp only [knownScope, Std.ExtTreeMap.getElem?_insert]
    split
    · rename_i same
      -- What is learnt is what was going to be said of this context in any case.
      obtain rfl : context = asked := Std.LawfulEqOrd.eq_of_compare same
      rw [known]
      rfl
    · rfl

end Resolver

/-! ## Steady inquiries -/

namespace Inquiry

variable {α β : Type} {subject : Subject}

/-- Resolvers that agree are alike to an inquiry, which leaves the resolver as good as it was. -/
structure Steady (subject : Subject) (inquiry : Inquiry α) : Prop where
  same : ∀ {first second : Resolver}, first.Agree subject second →
    answer first inquiry = answer second inquiry
  kept : ∀ resolver : Resolver, (after resolver inquiry).Agree subject resolver

namespace Steady

theorem pure (value : α) : Steady subject (pure value) where
  same _ := rfl
  kept := Resolver.Agree.refl

theorem bind {inquiry : Inquiry α} {next : α → Inquiry β} (now : Steady subject inquiry)
    (later : ∀ value, Steady subject (next value)) : Steady subject (inquiry >>= next) where
  same {first second} agree := by
    -- Both are in another state by now, but still in states that agree.
    have between : (after first inquiry).Agree subject (after second inquiry) :=
      (now.kept first).trans (agree.trans (now.kept second).symm)
    rw [answer_bind, answer_bind, now.same agree]
    exact (later _).same between
  kept resolver := by
    rw [after_bind]
    exact ((later _).kept _).trans (now.kept resolver)

theorem map {inquiry : Inquiry α} (steady : Steady subject inquiry) (f : α → β) :
    Steady subject (f <$> inquiry) where
  same agree := congrArg f (steady.same agree)
  kept := steady.kept

theorem mapM {step : α → Inquiry β} (each : ∀ item, Steady subject (step item))
    (items : List α) : Steady subject (items.mapM step) := by
  induction items with
  | nil => exact pure []
  | cons item items ih =>
    rw [List.mapM_cons]
    exact (each item).bind fun first => ih.bind fun rest => pure (first :: rest)

theorem populate : Steady subject (Resolver.populate subject) where
  same _ := rfl
  kept resolver := resolver.agree_after_populate subject

theorem callees (site : CallSite) : Steady subject (Resolver.callees subject site) where
  same agree := by
    simp only [Resolver.answer_callees, Resolver.after_populate, agree.edges]
  kept resolver := by
    rw [Resolver.after_callees]
    exact populate.kept resolver

theorem callers (id : ProcedureId) : Steady subject (Resolver.callers subject id) where
  same agree := by
    simp only [Resolver.answer_callers, Resolver.after_populate, agree.edges]
  kept resolver := by
    rw [Resolver.after_callers]
    exact populate.kept resolver

theorem isReachable (source target : ProcedureId) (context : Context) :
    Steady subject (Resolver.isReachable subject source target context) where
  same agree := by
    rw [Resolver.answer_isReachable, Resolver.answer_isReachable, agree.edges, agree.scopes]
  kept resolver := by
    rw [Resolver.after_isReachable]
    exact (Resolver.agree_after_scopeOf _ subject context).trans
      (populate.kept resolver)

theorem callTrace (target : ProcedureId) (context : Context) :
    Steady subject (Resolver.callTrace subject target context) where
  same agree := by
    rw [Resolver.answer_callTrace, Resolver.answer_callTrace, agree.edges, agree.scopes]
  kept resolver := by
    rw [Resolver.after_callTrace]
    exact (Resolver.agree_after_scopeOf _ subject context).trans
      (populate.kept resolver)

end Steady

/-- Steady inquiries one after another are answered as if each were the first. -/
theorem answer_mapM {step : α → Inquiry β} (each : ∀ item, Steady subject (step item))
    (resolver : Resolver) (items : List α) :
    answer resolver (items.mapM step) = items.map fun item => answer resolver (step item) := by
  induction items with
  | nil => rfl
  | cons item items ih =>
    -- What the first item taught the resolver does not show in the answers to the others.
    have rest : answer (after resolver (step item)) (items.mapM step) =
        answer resolver (items.mapM step) :=
      (Steady.mapM each items).same ((each item).kept resolver)
    rw [List.mapM_cons, List.map_cons, answer_bind, answer_bind, rest, ih]
    rfl

end Inquiry

end SandboxRpc
