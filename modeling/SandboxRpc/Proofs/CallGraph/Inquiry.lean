import SandboxRpc.CallGraph.Resolver

/-!
# What inquiries do to a resolver

An `Inquiry` gives an answer and leaves the resolver in a new state; events apart, `answer` and
`after` are all there is to it. Every operation on a resolver has one lemma here that says what
becomes of the resolver, so later proofs do not look into the operations:

- `after_loadObserved`, `after_loadAnnotated` and `after_populate_of_not_populated` for what fills
  the tables;
- `after_scopeOf` and the like for what leaves the edges alone.
-/

namespace SandboxRpc

/-! ## Answers and states -/

namespace Inquiry

variable {α β : Type} (resolver : Resolver)

/-- The answer to an inquiry. -/
def answer (inquiry : Inquiry α) : α :=
  (inquiry.run resolver).value.1

/-- The resolver after an inquiry. -/
def after (inquiry : Inquiry α) : Resolver :=
  (inquiry.run resolver).value.2

@[simp] theorem answer_pure (a : α) : answer resolver (pure a) = a := rfl

@[simp] theorem after_pure (a : α) : after resolver (pure a) = resolver := rfl

-- In parentheses, so that `simp` rewrites with these two step by step: as definitional equalities
-- they would leave the kernel one large computation for each operation.
@[simp] theorem answer_bind (x : Inquiry α) (f : α → Inquiry β) :
    answer resolver (x >>= f) = answer (after resolver x) (f (answer resolver x)) := (rfl)

@[simp] theorem after_bind (x : Inquiry α) (f : α → Inquiry β) :
    after resolver (x >>= f) = after (after resolver x) (f (answer resolver x)) := (rfl)

@[simp] theorem answer_map (x : Inquiry α) (f : α → β) :
    answer resolver (f <$> x) = f (answer resolver x) := rfl

@[simp] theorem after_map (x : Inquiry α) (f : α → β) :
    after resolver (f <$> x) = after resolver x := rfl

@[simp] theorem answer_get : answer resolver get = resolver := rfl

@[simp] theorem after_get : after resolver get = resolver := rfl

@[simp] theorem after_set (new : Resolver) : after resolver (set new) = new := rfl

@[simp] theorem after_modify (f : Resolver → Resolver) :
    after resolver (modify f) = f resolver := rfl

@[simp] theorem answer_liftM (x : Logged α) :
    answer resolver (liftM x : Inquiry α) = x.value := rfl

@[simp] theorem after_liftM (x : Logged α) :
    after resolver (liftM x : Inquiry α) = resolver := rfl

end Inquiry

open Inquiry

/-! ## Filling the tables -/

/-- The edges that were observed, as far as there are any. -/
def Observation.found : Observation → List CallEdge
  | .edges _ found => found.value
  | _ => []

namespace CallEdges

/-- Adds extra edges for indirect calls; those that do not fit the program are passed over. -/
def merged (edges : CallEdges) (program : Program) (extra : List CallEdge) : CallEdges :=
  (edges.merge program .trace extra).value

/-- The edges after a strategy, if there is one, has decided every indirect call. -/
def decided (edges : CallEdges) (program : Program) : Option Strategy → CallEdges
  | some strategy => (edges.refine program strategy).value
  | none => edges

end CallEdges

namespace Resolver

variable (resolver : Resolver) (subject : Subject)

theorem after_mergeEdges (program : Program) (origin : EdgeOrigin) (extra : List CallEdge) :
    after resolver (mergeEdges program origin extra) =
      { resolver with edges := resolver.edges.merged program extra } := rfl

theorem after_loadObserved :
    after resolver (loadObserved subject) =
      { resolver with edges := resolver.edges.merged subject.program subject.observed.found } := by
  cases observed : subject.observed with
  | unconfigured =>
    simp only [loadObserved, observed]
    rfl
  | failed source cause =>
    simp only [loadObserved, observed]
    rfl
  | edges source found =>
    simp [loadObserved, observed, after_mergeEdges, Observation.found]

theorem after_loadAnnotated :
    after resolver (loadAnnotated subject) =
      { resolver with
        edges := resolver.edges.merged subject.program subject.program.annotatedEdges } := by
  simp [loadAnnotated, after_mergeEdges]

theorem after_applyStrategy :
    after resolver (applyStrategy subject) =
      { resolver with edges := resolver.edges.decided subject.program resolver.strategy } := by
  cases chosen : resolver.strategy with
  | none =>
    simp only [applyStrategy, after_bind, answer_get, after_get, chosen, after_pure]
    cases resolver
    cases chosen
    rfl
  | some strategy =>
    simp only [applyStrategy, after_bind, answer_get, after_get, chosen]
    cases resolver
    cases chosen
    rfl

/-- The edges before a strategy decides: those of direct calls, the observed ones, and the annotated
ones if they count. -/
def collected : CallEdges :=
  let direct := resolver.edges.insertAll subject.program.directEdges
  let observed := direct.merged subject.program subject.observed.found
  if resolver.usesAnnotations then
    observed.merged subject.program subject.program.annotatedEdges
  else observed

theorem after_populate_of_populated (populated : resolver.populated = true) :
    after resolver (populate subject) = resolver := by
  simp [populate, populated]

theorem after_populate_of_not_populated (fresh : resolver.populated = false) :
    after resolver (populate subject) =
      { resolver with
        populated := true
        edges := (resolver.collected subject).decided subject.program resolver.strategy } := by
  cases annotations : resolver.usesAnnotations with
  | true =>
    simp [populate, fresh, collected, annotations, loadDirect, after_loadObserved,
      after_loadAnnotated, after_applyStrategy]
  | false =>
    simp [populate, fresh, collected, annotations, loadDirect, after_loadObserved,
      after_applyStrategy]

theorem populated_after_populate : (after resolver (populate subject)).populated = true := by
  cases populated : resolver.populated with
  | true => rw [after_populate_of_populated resolver subject populated, populated]
  | false => rw [after_populate_of_not_populated resolver subject populated]

/-! ## Queries -/

/-- Only a scope is learnt when a scope is asked for, and only the first time. -/
theorem after_scopeOf (context : Context) :
    after resolver (scopeOf subject context) =
      { resolver with
        scopes :=
          match resolver.scopes[context]? with
          | some _ => resolver.scopes
          | none =>
            resolver.scopes.insert context (subject.partition.scope subject.program context) } := by
  cases known : resolver.scopes[context]? with
  | none => simp [scopeOf, known]
  | some scope => simp [scopeOf, known]

theorem after_callees (site : CallSite) :
    after resolver (callees subject site) = after resolver (populate subject) := by
  cases target : subject.program.targetOf site with
  | direct callee => simp [callees, target]
  | indirect => simp [callees, target]

theorem answer_callees (site : CallSite) :
    answer resolver (callees subject site) =
      match subject.program.targetOf site with
      | .direct callee => [callee]
      | .indirect => ((after resolver (populate subject)).edges.calleesOf site).toList := by
  cases target : subject.program.targetOf site with
  | direct callee => simp [callees, target]
  | indirect => simp [callees, target]

theorem after_callers (id : ProcedureId) :
    after resolver (callers subject id) = after resolver (populate subject) := rfl

theorem answer_callers (id : ProcedureId) :
    answer resolver (callers subject id) =
      ((after resolver (populate subject)).edges.callersOf id).toList := rfl

theorem after_isReachable (source target : ProcedureId) (context : Context) :
    after resolver (isReachable subject source target context) =
      after (after resolver (populate subject)) (scopeOf subject context) := rfl

theorem after_callTrace (target : ProcedureId) (context : Context) :
    after resolver (callTrace subject target context) =
      after (after resolver (populate subject)) (scopeOf subject context) := rfl

end Resolver

end SandboxRpc
