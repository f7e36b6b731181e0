import SandboxRpc.Proofs.Files.View
import SandboxRpc.Proofs.Report.Agreement

/-!
# The files that an analysis leaves

An analysis writes two files, the report first. `Analysis.run_leaves` says what has become of all
files when it is over, however far the analysis got: the report and the drawing are there if it went
well, only the report if the drawing was refused, and nothing has changed if it failed before. It
holds of every file system with a `FileView`, in which a write that is refused changes no file.

Nothing keeps a configuration from naming one file for both. Then the drawing takes the place of the
report, and the analysis still counts as successful.
-/

namespace SandboxRpc

open Inquiry

namespace Analysis

variable {σ : Type} [MonadFiles (StateM σ)]

/-! ## Observing -/

section Observing

variable (view : FileView σ)

theorem keeps_loadFile (program : Program) (path : String) :
    view.Keeps (TraceSource.loadFile program path : StateM σ _) := by
  refine FileView.Keeps.bind (view.kept_isPresent path) fun present => ?_
  cases present with
  | false => exact view.keeps_pure _
  | true =>
    refine FileView.Keeps.bind (view.kept_readText? path) fun text? => ?_
    cases text? with
    | none => exact view.keeps_pure _
    | some text =>
      dsimp only
      cases TraceEntry.parseAll? text with
      | none => exact view.keeps_pure _
      | some entries => exact view.keeps_pure _

/-- Traces are only read. -/
theorem keeps_observe (program : Program) (source? : Option TraceSource) :
    view.Keeps (observe program source? : StateM σ _) := by
  cases source? with
  | none => exact view.keeps_pure _
  | some source =>
    cases source with
    | edges known => exact view.keeps_pure _
    | file path =>
      refine FileView.Keeps.bind (keeps_loadFile view program path) fun loaded => ?_
      cases loaded with
      | error cause => exact view.keeps_pure _
      | ok found => exact view.keeps_pure _

end Observing

/-! ## The ends of an analysis -/

theorem value_run' {α : Type} (inquiry : Inquiry α) (resolver : Resolver) :
    (inquiry.run' resolver).value = answer resolver inquiry := rfl

theorem value_conclude (found : Logged Products)
    (written : Except AnalysisFailure AnalysisOutcome) :
    (conclude found written).value = written := by
  cases written <;> rfl

theorem answer_renderReport (resolver : Resolver) (subject : Subject) (graph : MessageGraph)
    (format : ReportFormat) :
    answer resolver (renderReport subject graph format) =
      match format with
      | .json => (answer resolver (Report.ofGraph subject graph)).toJsonText
      | .text => (answer resolver (Report.ofGraph subject graph)).toText := by
  cases format <;> rfl

/-- Report and drawing are written in turn, until a write is refused. -/
theorem write_ends (output : OutputSettings) (graph : MessageGraph) (report drawing : String)
    (state : σ) :
    let reported := (MonadFiles.writeText output.reportPath report : StateM σ _).run state
    let drawn := (MonadFiles.writeText output.dotPath drawing : StateM σ _).run reported.2
    let ended := (write output { graph, report, drawing } : StateM σ _).run state
    reported.1 = false ∧ ended = (.error (.report output.reportPath), reported.2) ∨
    reported.1 = true ∧ drawn.1 = false ∧ ended = (.error (.drawing output.dotPath), drawn.2) ∨
    reported.1 = true ∧ drawn.1 = true ∧
      ended = (.ok { graph, reportPath := output.reportPath, dotPath := output.dotPath },
        drawn.2) := by
  intro reported drawn ended
  have first : ended = StateT.run (if reported.1 then _ else _) reported.2 := rfl
  cases reportWritten : reported.1 with
  | false =>
    rw [reportWritten] at first
    exact .inl ⟨rfl, first⟩
  | true =>
    rw [reportWritten] at first
    have second : ended = StateT.run (if drawn.1 then _ else _) drawn.2 := first
    cases drawingWritten : drawn.1 with
    | false =>
      rw [drawingWritten] at second
      exact .inr (.inl ⟨rfl, rfl, second⟩)
    | true =>
      rw [drawingWritten] at second
      exact .inr (.inr ⟨rfl, rfl, second⟩)

variable (configuration : Configuration) (program : Program) (partition : Partition)

/-- An analysis comes to what writing its products comes to, if there is a directory for them. -/
theorem run_eq (before : σ) {found : Products} :
    let output := configuration.output
    let made := (MonadFiles.makeDirectories output.directory : StateM σ _).run before
    let seen := (observe program configuration.traceSource? : StateM σ _).run made.2
    let asked := products configuration { program, partition, observed := seen.1 }
    let ended := (run configuration program partition : StateM σ _).run before
    answer configuration.resolver asked = found →
      (made.1 = false ∧
        (ended.1.value, ended.2) = (.error (.outputDirectory output.directory), made.2)) ∨
      (made.1 = true ∧
        (ended.1.value, ended.2) = (write output found : StateM σ _).run seen.2) := by
  intro output made seen asked ended same
  have ran : ended = StateT.run (if made.1 then _ else _) made.2 := rfl
  cases directory : made.1 with
  | false =>
    rw [directory] at ran
    rw [ran]
    exact .inl ⟨rfl, rfl⟩
  | true =>
    rw [directory, if_pos rfl, run_bind, run_bind, StateT.run_pure, value_run', same] at ran
    rw [ran]
    refine .inr ⟨rfl, ?_⟩
    show ((conclude _ _).value, _) = _
    rw [value_conclude]
    rfl

/-- What has become of the files when an analysis is over. If it went well, the report is where the
outcome says unless the drawing has taken its place.

Of the file system this takes what `FileView` says: a write changes only the file that its path
leads to, and a write that is refused changes no file (`FileView.refused`), so that nothing is left
of a text that could not be written to its end. `FileTree.view` is a file system of this kind. -/
theorem run_leaves (view : FileView σ) (before : σ) :
    let output := configuration.output
    let made := (MonadFiles.makeDirectories output.directory : StateM σ _).run before
    let seen := (observe program configuration.traceSource? : StateM σ _).run made.2
    let subject : Subject := { program, partition, observed := seen.1 }
    let graph := (MessageGraph.build configuration.conventions program partition).value
    let report :=
      match output.format with
      | .json => (answer configuration.resolver (Report.ofGraph subject graph)).toJsonText
      | .text => (answer configuration.resolver (Report.ofGraph subject graph)).toText
    let drawing := answer configuration.resolver (Dot.render subject graph)
    let reported := (MonadFiles.writeText output.reportPath report : StateM σ _).run seen.2
    let drawn := (MonadFiles.writeText output.dotPath drawing : StateM σ _).run reported.2
    let ended := (run configuration program partition : StateM σ _).run before
    let after := ended.2
    match ended.1.value with
    | .ok outcome =>
      (made.1 = true ∧ reported.1 = true ∧ drawn.1 = true) ∧
      outcome = { graph, reportPath := output.reportPath, dotPath := output.dotPath } ∧
      view.text? after outcome.dotPath = some drawing ∧
      (view.text? after outcome.reportPath = some report ↔
        view.place? after outcome.reportPath ≠ view.place? after outcome.dotPath ∨
          report = drawing) ∧
      ∀ place, view.place? after outcome.reportPath ≠ some place →
        view.place? after outcome.dotPath ≠ some place →
          view.file? after place = view.file? before place
    | .error (.outputDirectory path) =>
      made.1 = false ∧ path = output.directory ∧ view.file? after = view.file? before
    | .error (.report path) =>
      (made.1 = true ∧ reported.1 = false) ∧ path = output.reportPath ∧
        view.file? after = view.file? before
    | .error (.drawing path) =>
      (made.1 = true ∧ reported.1 = true ∧ drawn.1 = false) ∧ path = output.dotPath ∧
      view.text? after output.reportPath = some report ∧
      ∀ place, view.place? after output.reportPath ≠ some place →
        view.file? after place = view.file? before place := by
  intro output made seen subject graph report drawing reported drawn ended after
  have found : answer configuration.resolver (products configuration subject) =
      { graph, report, drawing } := by
    rw [answer_products, answer_renderReport]
  have start : view.file? seen.2 = view.file? before :=
    (keeps_observe view program _ made.2).trans (view.kept_makeDirectories output.directory before)
  rcases run_eq configuration program partition before found with ⟨refused, ran⟩ | ⟨ready, ran⟩
  · obtain ⟨value, state⟩ := Prod.mk.inj ran
    have state : after = made.2 := state
    rw [value, state]
    exact ⟨refused, rfl, view.kept_makeDirectories output.directory before⟩
  rcases write_ends output graph report drawing seen.2 with
    ⟨refused, wrote⟩ | ⟨written, refused, wrote⟩ | ⟨written, rewritten, wrote⟩
  · obtain ⟨value, state⟩ := Prod.mk.inj (ran.trans wrote)
    have state : after = reported.2 := state
    have first : reported = (false, reported.2) := Prod.ext refused rfl
    rw [value, state]
    exact ⟨⟨ready, refused⟩, rfl, (view.refused first).trans start⟩
  · obtain ⟨value, state⟩ := Prod.mk.inj (ran.trans wrote)
    have state : after = drawn.2 := state
    have first : reported = (true, reported.2) := Prod.ext written rfl
    have second : drawn = (false, drawn.2) := Prod.ext refused rfl
    obtain ⟨kept, others⟩ := FileView.written_then_refused first second
    rw [value, state]
    exact ⟨⟨ready, written, refused⟩, rfl, kept, fun place apart => by
      rw [others place apart, start]⟩
  · obtain ⟨value, state⟩ := Prod.mk.inj (ran.trans wrote)
    have state : after = drawn.2 := state
    have first : reported = (true, reported.2) := Prod.ext written rfl
    have second : drawn = (true, drawn.2) := Prod.ext rewritten rfl
    obtain ⟨last, kept, others⟩ := FileView.written_twice first second
    rw [value, state]
    exact ⟨⟨ready, written, rewritten⟩, rfl, last, kept, fun place apart apart' => by
      rw [others place apart apart', start]⟩

/-- `main` sends itself a message that nothing handles. -/
def greeting : Program where
  procedures := #[
    { name := "main", arity := none, calls := #[{
      target := .direct ⟨1⟩, arguments := [.global "self", .global "ping"] }] },
    { name := "__soaap_rpc_send_helper", arity := none }]
  globals := .ofList [("ping", Initializer.characters "PING"),
    ("self", Initializer.characters "<privileged>")]

/-- By default the two files have names of their own. -/
theorem run_leaves_by_default :
    let partition : Partition := { privileged := [⟨0⟩] }
    let subject : Subject := { program := greeting, partition }
    let graph := (MessageGraph.build {} greeting partition).value
    let ended := (run {} greeting partition : StateM FileTree _).run .initial
    ∃ outcome, ended.1.value = .ok outcome ∧
      ended.2.readText? outcome.reportPath =
        some (answer {} (Report.ofGraph subject graph)).toJsonText ∧
      ended.2.readText? outcome.dotPath = some (answer {} (Dot.render subject graph)) := by
  intro partition subject graph ended
  have goesWell : ended.1.value.toOption.any (fun outcome =>
      (ended.2.locate outcome.reportPath).toOption ≠
        (ended.2.locate outcome.dotPath).toOption) = true := by
    decide +kernel
  obtain ⟨outcome, value, apart⟩ := Success.exists_of_any goesWell
  have apart := of_decide_eq_true apart
  have left := run_leaves {} greeting partition FileTree.view .initial
  extract_lets at left
  rw [show Logged.value _ = _ from value] at left
  obtain ⟨_, _, drawing, report, _⟩ := left
  rw [FileTree.text?_view] at drawing report
  exact ⟨outcome, value, report.mpr (.inl apart), drawing⟩

/-- With one name for both files, all goes well and the report is lost. -/
theorem not_run_leaves_report :
    let configuration : Configuration := { output := { dotFile := "rpc_report.json" } }
    let partition : Partition := { privileged := [⟨0⟩] }
    let subject : Subject := { program := greeting, partition }
    let graph := (MessageGraph.build {} greeting partition).value
    let ended := (run configuration greeting partition : StateM FileTree _).run .initial
    ∃ outcome, ended.1.value = .ok outcome ∧
      ended.2.readText? outcome.reportPath ≠
        some (answer {} (Report.ofGraph subject graph)).toJsonText ∧
      ended.2.readText? outcome.reportPath = some (answer {} (Dot.render subject graph)) := by
  intro configuration partition subject graph ended
  have lost : ended.1.value.toOption.any (fun outcome =>
      ended.2.readText? outcome.reportPath ≠
        some (answer {} (Report.ofGraph subject graph)).toJsonText ∧
      ended.2.readText? outcome.reportPath =
        some (answer {} (Dot.render subject graph))) = true := by
    decide +kernel
  obtain ⟨outcome, value, facts⟩ := Success.exists_of_any lost
  exact ⟨outcome, value, of_decide_eq_true facts⟩

end Analysis

end SandboxRpc
