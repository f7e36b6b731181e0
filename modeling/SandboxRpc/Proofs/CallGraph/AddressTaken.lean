import SandboxRpc.Proofs.CallGraph.Session
import SandboxRpc.Proofs.Program.Handles

/-!
# The fallback to address-taken procedures

An indirect call for which nothing was found may still invoke any procedure whose address is taken
somewhere, if the call passes enough arguments. `populate_addressTaken` says what a resolver with
this fallback knows once its tables are filled. Whether a call falls back is decided by what was
found for this call, so the fallback of one call is nothing to any other.
-/

namespace SandboxRpc

open Inquiry

/-! ## Address-taken procedures -/

/-- An operand is a pointer to a procedure, under any number of casts. -/
inductive Value.IsPointer (id : ProcedureId) : Value ProcedureId → Prop where
  | function : IsPointer id (.function id)
  | cast {inner : Value ProcedureId} (below : IsPointer id inner) : IsPointer id (.cast inner)

theorem Value.isPointer_iff {value : Value ProcedureId} {id : ProcedureId} :
    value.IsPointer id ↔ value.stripCasts = .function id := by
  constructor
  · intro pointer
    induction pointer with
    | function => rfl
    | cast below ih => exact ih
  · intro stripped
    induction value with
    | cast inner ih => exact .cast (ih stripped)
    | function procedure =>
      cases stripped
      exact .function
    | _ => cases stripped

/-- A pointer to a procedure is passed in some call of the program, or a global variable starts out
as one. -/
def Program.TakesAddress (program : Program) (id : ProcedureId) : Prop :=
  (∃ site, program.hasCall site ∧ ∃ argument ∈ program.argumentsOf site, argument.IsPointer id) ∨
    ∃ name : String, program.globals[name]? = some (.function id)

theorem Program.mem_addressTaken_iff {program : Program} {id : ProcedureId} :
    id ∈ program.addressTaken ↔ program.TakesAddress id := by
  simp only [mem_addressTaken, TakesAddress, Value.isPointer_iff]

/-! ## The strategy -/

namespace Strategy

variable {program : Program} {site : CallSite} {found : ProcedureSet}

theorem addressTaken_of_ne_empty (some : found ≠ ∅) : addressTaken program site found = found := by
  rw [addressTaken, if_neg]
  simpa using some

theorem mem_addressTaken_empty {id : ProcedureId} :
    id ∈ addressTaken program site ∅ ↔ program.TakesAddress id ∧
      ∀ arity ∈ program.arityOf id, arity ≤ (program.argumentsOf site).length := by
  rw [addressTaken, if_pos Std.ExtTreeSet.isEmpty_empty, Std.ExtTreeSet.mem_filter]
  simp only [Std.ExtTreeSet.get_eq, exists_prop, Program.mem_addressTaken_iff, admits,
    Option.all_eq_true, decide_eq_true_eq, Option.mem_def]

end Strategy

/-! ## Filled tables -/

namespace Resolver

variable (subject : Subject) (usesAnnotations : Bool) (strategy : Strategy)

theorem answer_callees_of_direct (resolver : Resolver) {site : CallSite} {callee : ProcedureId}
    (direct : subject.program.targetOf site = .direct callee) :
    answer resolver (callees subject site) = [callee] := by
  rw [answer_callees, direct]

theorem answer_callees_of_indirect {site : CallSite}
    (indirect : subject.program.targetOf site = .indirect) :
    answer (after (fresh usesAnnotations (some strategy)) (populate subject))
        (callees subject site) =
      (subject.specifiedCallees usesAnnotations (some strategy) site).toList := by
  have populated := populated_after_populate (fresh usesAnnotations (some strategy)) subject
  rw [answer_callees, indirect, after_populate_of_populated _ subject populated,
    calleesOf_after_populate_fresh]

theorem specifiedCallees_of_indirect {site : CallSite}
    (indirect : site ∈ subject.program.indirectCalls) :
    subject.specifiedCallees usesAnnotations (some strategy) site =
      strategy subject.program site (subject.foundTargets usesAnnotations site) := by
  obtain ⟨present, target⟩ := Program.mem_indirectCalls.mp indirect
  rw [Subject.specifiedCallees, if_pos present, target]
  rfl

/-- A strategy decides each call by itself. -/
theorem specifiedCallees_congr {strategy other : Strategy} {site : CallSite}
    (same : strategy subject.program site = other subject.program site) :
    subject.specifiedCallees usesAnnotations (some strategy) site =
      subject.specifiedCallees usesAnnotations (some other) site := by
  simp only [Subject.specifiedCallees, CallEdges.decision, same]

/-- What a resolver knows that falls back to procedures whose address is taken. An indirect call for
which something was found keeps that, and any other gets the procedures whose address is taken and
which it passes enough arguments for; direct calls have their targets, and callers are told
accordingly. A call is answered for in the same way whatever a strategy does for other calls. -/
theorem populate_addressTaken (subject : Subject) (usesAnnotations : Bool) :
    let populated := after (fresh usesAnnotations (some Strategy.addressTaken)) (populate subject)
    let program := subject.program
    let found := subject.foundTargets usesAnnotations
    let calleesOf := fun site => answer populated (callees subject site)
    (∀ site ∈ program.indirectCalls, found site ≠ ∅ → calleesOf site = (found site).toList) ∧
    (∀ site ∈ program.indirectCalls, found site = ∅ → ∀ id, id ∈ calleesOf site ↔
      program.TakesAddress id ∧
        ∀ arity ∈ program.arityOf id, arity ≤ (program.argumentsOf site).length) ∧
    (∀ site callee, program.targetOf site = .direct callee → calleesOf site = [callee]) ∧
    (∀ id site, site ∈ answer populated (callers subject id) ↔ id ∈ calleesOf site) ∧
    ∀ (strategy : Strategy) (site : CallSite),
      strategy program site = Strategy.addressTaken program site →
      answer (after (fresh usesAnnotations (some strategy)) (populate subject))
        (callees subject site) = calleesOf site := by
  intro populated program found calleesOf
  have told (site : CallSite) (indirect : site ∈ program.indirectCalls) :
      calleesOf site = (Strategy.addressTaken program site (found site)).toList := by
    rw [← specifiedCallees_of_indirect subject usesAnnotations Strategy.addressTaken indirect]
    exact answer_callees_of_indirect subject usesAnnotations _
      (Program.mem_indirectCalls.mp indirect).2
  refine ⟨?_, ?_, ?_, ?_, ?_⟩
  · intro site indirect some
    rw [told site indirect, Strategy.addressTaken_of_ne_empty some]
  · intro site indirect none id
    rw [told site indirect, none, Std.ExtTreeSet.mem_toList]
    exact Strategy.mem_addressTaken_empty
  · exact fun site callee direct => answer_callees_of_direct subject populated direct
  · intro id site
    have filled : populated.populated = true := populated_after_populate _ subject
    have fits : FitsDirect program populated :=
      (fitsDirect_fresh program usesAnnotations _).populate rfl
    have converse : populated.edges.IsConverse :=
      isConverse_after_populate CallEdges.isConverse_empty subject
    rw [mem_answer_callers filled, ← converse site id]
    exact (mem_answer_callees fits filled rfl).symm
  · intro strategy site same
    cases target : program.targetOf site with
    | direct callee =>
      rw [answer_callees_of_direct subject _ target]
      exact (answer_callees_of_direct subject populated target).symm
    | indirect =>
      rw [answer_callees_of_indirect subject usesAnnotations strategy target,
        specifiedCallees_congr subject usesAnnotations same]
      exact (answer_callees_of_indirect subject usesAnnotations _ target).symm

/-- `main` passes a pointer to `one` under two casts, and `table` holds `three`. The first indirect
call has an annotation; the second one falls back, and passes one argument. -/
theorem populate_addressTaken_beside_annotation :
    let procedures : Array Procedure := #[
      { name := "main", arity := some 0, calls := #[
        ⟨.direct ⟨1⟩, [.cast (.cast (.function ⟨1⟩))]⟩, ⟨.indirect, []⟩,
        ⟨.indirect, [.function ⟨3⟩]⟩] },
      { name := "one", arity := some 1 }, { name := "three", arity := some 3 },
      { name := "any", arity := none }]
    let program :=
      (Program.setGlobal { procedures } "table" (.function ⟨2⟩)).annotate ⟨⟨0⟩, 1⟩ [⟨2⟩]
    let subject : Subject := { program, partition := {} }
    let populated := after (fresh true (some Strategy.addressTaken)) (populate subject)
    let calleesOf := fun site : CallSite => answer populated (callees subject site)
    calleesOf ⟨⟨0⟩, 0⟩ = [⟨1⟩] ∧ calleesOf ⟨⟨0⟩, 1⟩ = [⟨2⟩] ∧
      ⟨1⟩ ∈ calleesOf ⟨⟨0⟩, 2⟩ ∧ ⟨2⟩ ∉ calleesOf ⟨⟨0⟩, 2⟩ := by
  intro procedures program subject populated calleesOf
  have first : ⟨⟨0⟩, 1⟩ ∈ program.indirectCalls := by decide +revert +kernel
  have second : ⟨⟨0⟩, 2⟩ ∈ program.indirectCalls := by decide +revert +kernel
  have annotated : (subject.foundTargets true ⟨⟨0⟩, 1⟩).toList = [⟨2⟩] := by
    decide +revert +kernel
  have unknown : subject.foundTargets true ⟨⟨0⟩, 2⟩ = ∅ := by
    rw [← Std.ExtTreeSet.toList_eq_nil_iff]
    decide +revert +kernel
  have nonempty : subject.foundTargets true ⟨⟨0⟩, 1⟩ ≠ ∅ := by
    rw [ne_eq, ← Std.ExtTreeSet.toList_eq_nil_iff, annotated]
    exact List.cons_ne_nil _ _
  obtain ⟨kept, fallback, direct, _⟩ := populate_addressTaken subject true
  refine ⟨direct _ _ rfl, (kept _ first nonempty).trans annotated, ?_, ?_⟩
  · refine (fallback _ second unknown _).mpr
      ⟨.inl ⟨⟨⟨0⟩, 0⟩, rfl, _, List.mem_singleton_self _, ?_⟩, ?_⟩
    · exact .cast (.cast .function)
    · intro arity known
      cases known
      exact Nat.le_refl 1
  · intro callee
    have enough := ((fallback _ second unknown _).mp callee).2 3 rfl
    exact absurd enough (by decide)

end Resolver

end SandboxRpc
