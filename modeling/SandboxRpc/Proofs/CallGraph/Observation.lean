import SandboxRpc.Analysis
import SandboxRpc.Files.Tree
import SandboxRpc.Proofs.CallGraph.Inquiry
import SandboxRpc.Proofs.Program.Handles
import SandboxRpc.Proofs.Turns

/-!
# What is observed

A trace file may hold anything, and may be missing or out of reach. `Observation.IsOf` says what can
come of it (`isOf_observe`): whatever the file, the edges that are observed are edges of the
program.
-/

namespace SandboxRpc

/-! ## Recorded traces -/

namespace TraceEntry

variable {program : Program} {entries : List TraceEntry}

/-- Whatever a trace says, it shows edges of the program only. -/
theorem mem_edges (indexed : program.IsIndexed) {edge : CallEdge}
    (shown : edge ∈ (edges program entries).value) :
    program.hasCall edge.1 ∧ edge.2 ∈ program.procedureIds := by
  replace shown : edge ∈ (entries.mapM (edge? program)).value.filterMap id := shown
  rw [Logged.value_mapM, List.filterMap_map, List.mem_filterMap] at shown
  obtain ⟨entry, _, shown⟩ := shown
  rw [Function.comp_apply, id, edge?] at shown
  split at shown
  · rename_i caller callee found foundToo
    dsimp only at shown
    split at shown
    · rename_i present
      cases shown
      exact ⟨present, indexed.mem_procedureIds_of_find? foundToo⟩
    · cases shown
  · cases shown

/-- What is wrong with an entry is for the trace to say. -/
theorem component_of_mem_warnings_edges {warning : Warning}
    (given : warning ∈ (edges program entries).warnings) : warning.component = .trace := by
  rw [Logged.mem_warnings, edges, Logged.events_bind, Logged.events_mapM, List.mem_append,
    List.mem_flatMap] at given
  rcases given with ⟨entry, _, given⟩ | none
  · rw [edge?] at given
    split at given
    · dsimp only at given
      split at given
      · cases given
      · cases List.mem_singleton.mp given
        rfl
    · cases List.mem_singleton.mp given
      rfl
  · cases none

end TraceEntry

/-! ## Observations -/

/-- What there can be to see of the runs of a program: no trace, one that cannot be used, or what
the entries of one show. -/
inductive Observation.IsOf (program : Program) : Observation → Prop where
  | unconfigured : IsOf program .unconfigured
  | failed (source : String) (cause : Error) : IsOf program (.failed source cause)
  | absent (path : String) :
    IsOf program (.edges path (do Logged.note (.traceAbsent path); return []))
  | entries (path : String) (entries : List TraceEntry) :
    IsOf program (.edges path (TraceEntry.edges program entries))

theorem Observation.IsOf.mem_found {program : Program} {observed : Observation}
    (isOf : observed.IsOf program) (indexed : program.IsIndexed) {edge : CallEdge}
    (shown : edge ∈ observed.found) :
    program.hasCall edge.1 ∧ edge.2 ∈ program.procedureIds := by
  cases isOf with
  | unconfigured => cases shown
  | failed source cause => cases shown
  | absent path => cases shown
  | entries path entries => exact TraceEntry.mem_edges indexed shown

/-! ## Trace files -/

theorem TraceSource.run_loadFile (program : Program) (path : String) (tree : FileTree) :
    (loadFile program path : StateM FileTree _).run tree =
      (if (tree.find? path).isSome then
        match tree.readText? path with
        | none => .error (.unreadable path)
        | some text =>
          match TraceEntry.parseAll? text with
          | none => .error (.malformedJson path)
          | some entries => .ok (TraceEntry.edges program entries)
      else .ok (do Logged.note (.traceAbsent path); return []), tree) := by
  cases present : (tree.find? path).isSome with
  | false =>
    simp [loadFile, MonadFiles.isPresent, present]
    rfl
  | true =>
    cases read : tree.readText? path with
    | none =>
      simp [loadFile, MonadFiles.isPresent, MonadFiles.readText?, present, read]
      rfl
    | some text =>
      cases parsed : TraceEntry.parseAll? text with
      | none =>
        simp [loadFile, MonadFiles.isPresent, MonadFiles.readText?, present, read, parsed]
        rfl
      | some entries =>
        simp [loadFile, MonadFiles.isPresent, MonadFiles.readText?, present, read, parsed]
        rfl

/-- Whatever the files are, a trace file that is named gives such an observation. -/
theorem Analysis.isOf_observe (program : Program) (path? : Option String) (tree : FileTree) :
    ((observe program (path?.map .file) : StateM FileTree _).run tree).1.IsOf program := by
  cases path? with
  | none => exact .unconfigured
  | some path =>
    simp only [Option.map_some, observe, TraceSource.observe, StateT.run_bind,
      TraceSource.run_loadFile]
    cases (tree.find? path).isSome with
    | false => exact .absent path
    | true =>
      cases tree.readText? path with
      | none => exact .failed path _
      | some text =>
        simp only [if_true]
        cases TraceEntry.parseAll? text with
        | none => exact .failed path _
        | some entries => exact .entries path entries

end SandboxRpc
