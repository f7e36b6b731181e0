import SandboxRpc.Program.Basic

/-!
# How programs grow

Two tables are enough to follow a program while it grows: `Program.names`, the names of its
procedures by number, and `Program.bodyOf`, the calls of each of them. The queries read these
tables; `declare` adds to the names only, and `addCall` to one body only.

- `Program.IsIndexed` says that the index by name fits the names by number. It holds of the empty
  program, and every change keeps it.
- `Program.Extends` says that names were added at the end. What a name means then stays the same.
-/

namespace SandboxRpc

namespace Program

variable {program : Program} {name : String} {id : ProcedureId} {site : CallSite}

/-! ## Names -/

/-- The names of the procedures, by number. -/
def names (program : Program) : List String :=
  program.procedures.toList.map Procedure.name

theorem mem_procedureIds_iff_names :
    id ∈ program.procedureIds ↔ id.index < program.names.length := by
  simp [names]

theorem nameOf_eq : program.nameOf id = program.names[id.index]?.getD unknownName := by
  simp [nameOf, procedure?, names]

/-! ## The index -/

/-- The index and the names agree: a name leads to a procedure exactly if that procedure has it. -/
def IsIndexed (program : Program) : Prop :=
  ∀ name id, program.find? name = some id ↔ program.names[id.index]? = some name

namespace IsIndexed

variable (indexed : program.IsIndexed)
include indexed

/-- A name that two procedures had would have to lead to both of them. -/
theorem distinct : program.names.Nodup := by
  refine List.pairwise_iff_getElem.mpr fun first second bound bound' before same => ?_
  have found := (indexed program.names[first] ⟨first⟩).mpr (List.getElem?_eq_getElem bound)
  have found' := (indexed program.names[first] ⟨second⟩).mpr
    (same ▸ List.getElem?_eq_getElem bound')
  have equal : first = second :=
    congrArg ProcedureId.index (Option.some.inj (found.symm.trans found'))
  exact Nat.ne_of_lt before equal

theorem find?_eq_none_iff : program.find? name = none ↔ name ∉ program.names := by
  constructor
  · intro missing member
    obtain ⟨index, named⟩ := List.mem_iff_getElem?.mp member
    rw [(indexed name ⟨index⟩).mpr named] at missing
    cases missing
  · intro unknown
    cases found : program.find? name with
    | none => rfl
    | some id => exact absurd (List.mem_of_getElem? ((indexed name id).mp found)) unknown

/-- The same by number: the procedure is declared and has that name. -/
theorem find?_eq_some_iff :
    program.find? name = some id ↔ id ∈ program.procedureIds ∧ program.nameOf id = name := by
  rw [indexed, mem_procedureIds_iff_names, nameOf_eq]
  by_cases declared : id.index < program.names.length
  · simp [declared]
  · simp [declared]

theorem mem_procedureIds_of_find? (found : program.find? name = some id) :
    id ∈ program.procedureIds :=
  (indexed.find?_eq_some_iff.mp found).1

/-- Two procedures with one name are both what that name leads to. -/
theorem eq_of_nameOf_eq {other : ProcedureId} (declared : id ∈ program.procedureIds)
    (declared' : other ∈ program.procedureIds)
    (same : program.nameOf id = program.nameOf other) : id = other := by
  have found := indexed.find?_eq_some_iff.mpr ⟨declared, same⟩
  have found' := indexed.find?_eq_some_iff.mpr ⟨declared', rfl⟩
  exact Option.some.inj (found.symm.trans found')

omit indexed in
theorem of_names_eq {small large : Program} (indexed : small.IsIndexed)
    (names : large.names = small.names) (index : large.byName = small.byName) :
    large.IsIndexed := by
  intro name id
  rw [find?, index, names]
  exact indexed name id

end IsIndexed

theorem map_fst_numbered (procedures : Array Procedure) :
    (Procedure.numbered procedures).map Prod.fst = procedures.toList.map Procedure.name := by
  rw [Procedure.numbered, List.map_map]
  show procedures.toList.zipIdx.map (Procedure.name ∘ Prod.fst) = _
  rw [← List.map_map, List.zipIdx_map_fst]

theorem mem_numbered {procedures : Array Procedure} :
    (name, id) ∈ Procedure.numbered procedures ↔
      (procedures.toList.map Procedure.name)[id.index]? = some name := by
  obtain ⟨index⟩ := id
  simp [Procedure.numbered, List.mem_zipIdx_iff_getElem?]

/-- A program that is written down as a whole is indexed, unless two procedures share a name. -/
theorem isIndexed_written {procedures : Array Procedure}
    (distinct : (procedures.toList.map Procedure.name).Nodup) :
    ({ procedures } : Program).IsIndexed := by
  have apart : (Procedure.numbered procedures).Pairwise fun first second =>
      ¬ compare first.1 second.1 = .eq := by
    rw [← map_fst_numbered, List.Nodup, List.pairwise_map] at distinct
    exact distinct.imp fun different same => different (Std.LawfulEqOrd.eq_of_compare same)
  intro name id
  have leads {id : ProcedureId} (member : (name, id) ∈ Procedure.numbered procedures) :
      ({ procedures } : Program).find? name = some id :=
    Std.ExtTreeMap.getElem?_ofList_of_mem Std.ReflCmp.compare_self apart member
  show _ ↔ (procedures.toList.map Procedure.name)[id.index]? = some name
  rw [← mem_numbered]
  constructor
  · intro found
    cases known : ((Procedure.numbered procedures).map Prod.fst).contains name with
    | false =>
      rw [find?, Std.ExtTreeMap.getElem?_ofList_of_contains_eq_false known] at found
      cases found
    | true =>
      -- There is an entry for the name, and it is the only one.
      obtain ⟨⟨_, other⟩, member, rfl⟩ := List.mem_map.mp (List.contains_iff_mem.mp known)
      rw [leads member, Option.some_inj] at found
      exact found ▸ member
  · exact leads

theorem isIndexed_empty : ({} : Program).IsIndexed :=
  isIndexed_written List.nodup_nil

/-! ## Bodies -/

/-- The calls of a procedure, in order. -/
def bodyOf (program : Program) (id : ProcedureId) : List Call :=
  ((program.procedure? id).map (·.calls.toList)).getD []

theorem call?_eq : program.call? site = (program.bodyOf site.caller)[site.index]? := by
  rw [call?, bodyOf]
  cases program.procedure? site.caller with
  | none => rfl
  | some procedure => simp

theorem callCount_eq : program.callCount id = (program.bodyOf id).length := by
  rw [callCount, bodyOf]
  cases program.procedure? id with
  | none => rfl
  | some procedure => simp

theorem caller_mem_procedureIds (present : program.hasCall site) :
    site.caller ∈ program.procedureIds := by
  obtain ⟨id, declared, owned⟩ := List.mem_flatMap.mp (mem_callSites.mpr present)
  rwa [(mem_callsOf.mp owned).1]

theorem mem_flatMap_callsOf {procedures : List ProcedureId} :
    site ∈ procedures.flatMap program.callsOf ↔
      site.caller ∈ procedures ∧ program.hasCall site := by
  rw [List.mem_flatMap]
  constructor
  · rintro ⟨id, listed, member⟩
    obtain ⟨rfl, present⟩ := mem_callsOf.mp member
    exact ⟨listed, present⟩
  · rintro ⟨listed, present⟩
    exact ⟨site.caller, listed, mem_callsOf.mpr ⟨rfl, present⟩⟩

/-! ## Growth -/

theorem names_declare (indexed : program.IsIndexed) {arity : Option Nat} :
    (program.declare name arity).2.names =
      if name ∈ program.names then program.names else program.names ++ [name] := by
  rw [declare]
  split
  · rename_i id found
    rw [if_pos (List.mem_of_getElem? ((indexed name id).mp found))]
  · rename_i missing
    rw [if_neg (indexed.find?_eq_none_iff.mp missing)]
    simp [names]

theorem getElem?_concat_eq_some_iff {α : Type} {items : List α} {last item : α} {index : Nat} :
    (items ++ [last])[index]? = some item ↔
      items[index]? = some item ∨ index = items.length ∧ last = item := by
  grind

/-- A new name leads to the end of the names, where it is put, and the others to where they did. -/
theorem isIndexed_declare (indexed : program.IsIndexed) (arity : Option Nat) :
    (program.declare name arity).2.IsIndexed := by
  rw [declare]
  split
  · exact indexed
  · rename_i missing
    intro other id
    have unknown : name ∉ program.names := indexed.find?_eq_none_iff.mp missing
    have size : program.procedures.size = program.names.length := by simp [names]
    have index : (program.byName.insert name ⟨program.procedures.size⟩)[other]? =
        if name = other then some ⟨program.names.length⟩ else program.find? other := by
      simp only [Std.ExtTreeMap.getElem?_insert, Std.LawfulEqOrd.compare_eq_iff_eq, size]
      rfl
    have names : (program.procedures.push { name, arity }).toList.map Procedure.name =
        program.names ++ [name] := by simp [names]
    show (program.byName.insert name ⟨program.procedures.size⟩)[other]? = some id ↔
      ((program.procedures.push { name, arity }).toList.map Procedure.name)[id.index]? = some other
    rw [index, names, getElem?_concat_eq_some_iff, ← indexed]
    by_cases same : name = other
    · -- The index knew nothing of the name, so the number at the end is the only one.
      subst same
      rw [if_pos rfl, missing, Option.some_inj, ProcedureId.ext_iff]
      simp [eq_comm]
    · simp [same]

theorem bodyOf_declare {arity : Option Nat} :
    (program.declare name arity).2.bodyOf id = program.bodyOf id := by
  rw [declare]
  split
  · rfl
  · simp only [bodyOf, procedure?, Array.getElem?_push]
    split
    · rename_i last
      simp [last]
    · rfl

/-- A declared procedure is found by its name. -/
theorem find?_declare {arity : Option Nat} :
    (program.declare name arity).2.find? name = some (program.declare name arity).1 := by
  cases found : program.find? name with
  | some id => simp [declare, found]
  | none =>
    simp only [declare, found]
    exact Std.ExtTreeMap.getElem?_insert_self

theorem arityOf_declare_of_mem {arity : Option Nat} (declared : id ∈ program.procedureIds) :
    (program.declare name arity).2.arityOf id = program.arityOf id := by
  rw [mem_procedureIds] at declared
  rw [declare]
  split
  · rfl
  · have earlier : id.index ≠ program.procedures.size := Nat.ne_of_lt declared
    simp [arityOf, procedure?, Array.getElem?_push, earlier]

theorem arityOf_declare_new {arity : Option Nat} (new : program.find? name = none) :
    (program.declare name arity).2.arityOf (program.declare name arity).1 = arity := by
  simp [declare, new, arityOf, procedure?]

@[simp] theorem names_addCall {caller : ProcedureId} {call : Call} :
    (program.addCall caller call).names = program.names := by
  refine List.ext_getElem? fun index => ?_
  simp only [names, addCall, List.getElem?_map, Array.getElem?_toList, Array.getElem?_modify]
  split
  · cases program.procedures[index]? <;> rfl
  · rfl

theorem arityOf_addCall {caller : ProcedureId} {call : Call} :
    (program.addCall caller call).arityOf id = program.arityOf id := by
  simp only [arityOf, procedure?, addCall, Array.getElem?_modify]
  split
  · cases program.procedures[id.index]? <;> rfl
  · rfl

theorem bodyOf_addCall {caller : ProcedureId} {call : Call}
    (declared : caller.index < program.names.length) :
    (program.addCall caller call).bodyOf id =
      program.bodyOf id ++ if caller = id then [call] else [] := by
  have bound : caller.index < program.procedures.size := by simpa [names] using declared
  simp only [bodyOf, procedure?, addCall, Array.getElem?_modify]
  by_cases same : caller = id
  · subst same
    simp [bound]
  · have other : caller.index ≠ id.index := fun equal => same (ProcedureId.ext equal)
    simp [same, other]

@[simp] theorem names_setGlobal {initializer : Initializer ProcedureId} :
    (program.setGlobal name initializer).names = program.names := rfl

@[simp] theorem bodyOf_setGlobal {initializer : Initializer ProcedureId} :
    (program.setGlobal name initializer).bodyOf id = program.bodyOf id := rfl

@[simp] theorem names_annotate {targets : List ProcedureId} :
    (program.annotate site targets).names = program.names := rfl

@[simp] theorem bodyOf_annotate {targets : List ProcedureId} :
    (program.annotate site targets).bodyOf id = program.bodyOf id := rfl

/-! ## Extensions -/

/-- Procedures were added to a program: what a name means stays the same, and the index fits if it
did before. -/
structure Extends (small large : Program) : Prop where
  names : small.names <+: large.names
  find? : ∀ {name : String} {id : ProcedureId},
    small.find? name = some id → large.find? name = some id
  indexed : small.IsIndexed → large.IsIndexed

namespace Extends

variable {small middle large : Program}

theorem refl (program : Program) : Extends program program :=
  ⟨List.prefix_refl _, id, id⟩

theorem trans (first : Extends small middle) (second : Extends middle large) :
    Extends small large :=
  ⟨first.names.trans second.names, fun found => second.find? (first.find? found),
    fun indexed => second.indexed (first.indexed indexed)⟩

theorem of_names_eq (names : large.names = small.names) (index : large.byName = small.byName) :
    Extends small large where
  names := names ▸ List.prefix_refl small.names
  find? found := by rwa [Program.find?, index]
  indexed indexed := indexed.of_names_eq names index

theorem declare (program : Program) (name : String) (arity : Option Nat) :
    Extends program (program.declare name arity).2 := by
  refine ⟨?_, ?_, fun indexed => isIndexed_declare indexed arity⟩
  · rw [Program.declare]
    split
    · exact List.prefix_refl _
    · simp [Program.names]
  · intro other id found
    rw [Program.declare]
    split
    · exact found
    · rename_i missing
      -- Only a name that was missing is entered.
      have different : name ≠ other := by
        rintro rfl
        rw [missing] at found
        cases found
      show (program.byName.insert name _)[other]? = some id
      rw [Std.ExtTreeMap.getElem?_insert, if_neg fun same =>
        different (Std.LawfulEqOrd.eq_of_compare same)]
      exact found

end Extends

end Program

end SandboxRpc
