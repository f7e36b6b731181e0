import SandboxRpc.Files.Tree
import SandboxRpc.Proofs.Success

/-!
# What the operations on files do

A `FileView` says which files there are in a state and what becomes of them: a file stands at a
place, several paths may lead to one place, and a write changes the file at one place or none.

`FileTree.view` is the view of a file tree. There a place is a location, and it is a matter of the
directories alone where a path leads. Writing a file makes and removes none, so all paths lead where
they led before.
-/

namespace SandboxRpc

/-- The files of a state, and what operations do to them. -/
structure FileView (σ : Type) [MonadFiles (StateM σ)] where
  /-- Where a file can be. -/
  Place : Type
  /-- Where a path leads, whether or not there is a file. -/
  place? : σ → String → Option Place
  /-- The file at a place. A directory is none. -/
  file? : σ → Place → Option FileEntry
  kept_readText? : ∀ (path : String) (state : σ),
    file? ((MonadFiles.readText? path : StateM σ _).run state).2 = file? state
  kept_isPresent : ∀ (path : String) (state : σ),
    file? ((MonadFiles.isPresent path : StateM σ _).run state).2 = file? state
  kept_makeDirectories : ∀ (path : String) (state : σ),
    file? ((MonadFiles.makeDirectories path : StateM σ _).run state).2 = file? state
  /-- A write that is refused changes no file. -/
  refused : ∀ {path text : String} {state after : σ},
    (MonadFiles.writeText path text : StateM σ _).run state = (false, after) →
      file? after = file? state
  /-- Any other write changes the file that its path leads to, and no other. -/
  written : ∀ {path text : String} {state after : σ},
    (MonadFiles.writeText path text : StateM σ _).run state = (true, after) →
      ∃ place, place? after path = some place ∧ file? after place = some (.text text) ∧
        ∀ other, other ≠ place → file? after other = file? state other
  /-- Where a path leads does not depend on what is written. -/
  settled : ∀ (path text : String) {other : String} {state : σ} {place : Place},
    place? state other = some place →
      place? ((MonadFiles.writeText path text : StateM σ _).run state).2 other = some place

namespace FileView

variable {σ α β : Type} [MonadFiles (StateM σ)] (view : FileView σ)

/-- The text of the file that a path leads to. -/
def text? (state : σ) (path : String) : Option String :=
  ((view.place? state path).bind (view.file? state)).bind FileEntry.text?

/-- A computation changes no file. -/
def Keeps (x : StateM σ α) : Prop :=
  ∀ state, view.file? (x.run state).2 = view.file? state

theorem keeps_pure (value : α) : view.Keeps (pure value) :=
  fun _ => rfl

variable {view}

section Twice

variable {first second text drawn : String} {before between after : σ}

/-- What was written stays if the next write is refused. -/
theorem written_then_refused
    (written : (MonadFiles.writeText first text : StateM σ _).run before = (true, between))
    (refused : (MonadFiles.writeText second drawn : StateM σ _).run between = (false, after)) :
    view.text? after first = some text ∧
      ∀ place, view.place? after first ≠ some place →
        view.file? after place = view.file? before place := by
  have same := view.refused refused
  obtain ⟨own, leads, file, others⟩ := view.written written
  have stays := view.settled second drawn leads
  rw [refused] at stays
  constructor
  · rw [text?, stays, Option.bind_some, same, file, Option.bind_some, FileEntry.text?]
  · intro place apart
    rw [same]
    refine others place ?_
    rintro rfl
    exact apart stays

/-- Of two files that are written, both are there unless they are one. -/
theorem written_twice
    (written : (MonadFiles.writeText first text : StateM σ _).run before = (true, between))
    (rewritten : (MonadFiles.writeText second drawn : StateM σ _).run between = (true, after)) :
    view.text? after second = some drawn ∧
      (view.text? after first = some text ↔
        view.place? after first ≠ view.place? after second ∨ text = drawn) ∧
      ∀ place, view.place? after first ≠ some place → view.place? after second ≠ some place →
        view.file? after place = view.file? before place := by
  obtain ⟨own, leads, file, others⟩ := view.written written
  obtain ⟨other, leads', file', others'⟩ := view.written rewritten
  have stays := view.settled second drawn leads
  rw [rewritten] at stays
  have last : view.text? after second = some drawn := by
    rw [text?, leads', Option.bind_some, file', Option.bind_some, FileEntry.text?]
  refine ⟨last, ?_, fun place apart apart' => ?_⟩
  · by_cases one : own = other
    · have same : view.place? after first = view.place? after second := by
        rw [stays, leads', one]
      rw [text?, same, ← text?, last, Option.some_inj, eq_comm]
      simp
    · have kept : view.text? after first = some text := by
        rw [text?, stays, Option.bind_some, others' own one, file, Option.bind_some,
          FileEntry.text?]
      rw [stays, leads']
      simp [kept, one]
  · rw [others' place fun here => apart' (here ▸ leads'),
      others place fun here => apart (here ▸ stays)]

end Twice

theorem Keeps.bind {x : StateM σ α} {f : α → StateM σ β} (now : view.Keeps x)
    (later : ∀ value, view.Keeps (f value)) : view.Keeps (x >>= f) :=
  fun state => (later _ _).trans (now state)

end FileView

namespace FileTree

variable {tree grown : FileTree} {location : Location}

/-! ## Entries -/

theorem entry?_insert (inner : location ≠ []) (entry : FileEntry) (other : Location) :
    FileTree.entry? (tree.insert location entry) other =
      if other = location then some entry else tree.entry? other := by
  by_cases root : other = []
  · subst root
    simp [inner.symm, entry?]
  · by_cases here : other = location
    · subst here
      simp [insert, entry?, root]
    · simp [insert, entry?, root, here, Std.ExtTreeMap.getElem?_insert, Ne.symm here]

theorem ne_root_of_free (other : tree.entry? location ≠ some .directory) : location ≠ [] := by
  rintro rfl
  exact other rfl

/-- The file at a location. -/
def fileAt? (tree : FileTree) (location : Location) : Option FileEntry :=
  (tree.entry? location).filter fun entry => !entry.isDirectory

/-! ## Making directories -/

/-- Directories are made where there is nothing. -/
theorem fileAt?_makeDirectory {start : Location} {names : List String}
    (made : tree.makeDirectory start names = .ok grown) : grown.fileAt? = tree.fileAt? := by
  rw [makeDirectory] at made
  obtain ⟨location, _, made⟩ := Success.bind_eq_ok_iff.mp made
  split at made
  · cases made
  · rename_i free
    cases made
    have absent : tree.entry? location ≠ some .directory := by simp [free]
    funext other
    rw [fileAt?, fileAt?, entry?_insert (ne_root_of_free absent)]
    split
    · rename_i here
      rw [here, free]
      rfl
    · rfl

theorem fileAt?_ensureDirectory {start : Location} {names : List String}
    (made : tree.ensureDirectory start names = .ok grown) : grown.fileAt? = tree.fileAt? := by
  rw [ensureDirectory] at made
  split at made
  · rename_i made'
    cases made
    exact fileAt?_makeDirectory made'
  · split at made
    · cases made
      rfl
    · cases made

theorem fileAt?_ensureDirectories {start : Location} {reversed : List String}
    (made : tree.ensureDirectories start reversed = .ok grown) : grown.fileAt? = tree.fileAt? := by
  fun_induction ensureDirectories tree start reversed generalizing grown with
  | case1 =>
    cases made
    rfl
  | case2 name outer missing ih =>
    obtain ⟨around, madeAround, made⟩ := Success.bind_eq_ok_iff.mp made
    rw [fileAt?_ensureDirectory made, ih madeAround]
  | case3 name outer other =>
    exact fileAt?_ensureDirectory made

theorem fileAt?_makeDirectories? {path : String}
    (made : tree.makeDirectories? path = some grown) : grown.fileAt? = tree.fileAt? := by
  rw [makeDirectories?] at made
  split at made
  · exact fileAt?_ensureDirectories (Success.toOption_eq_some_iff.mp made)
  · cases made

/-! ## Writing -/

theorem writeText?_eq_some {path text : String} (written : tree.writeText? path text = some grown) :
    ∃ location, tree.locate path = .ok location ∧ tree.entry? location ≠ some .directory ∧
      grown = tree.insert location (.text text) := by
  rw [writeText?] at written
  split at written
  · cases written
  · rename_i location found
    split at written
    · cases written
    · rename_i free
      cases written
      exact ⟨location, found, free, rfl⟩

/-- Paths lead through directories, and these stay. -/
theorem walk_insert (free : tree.entry? location ≠ some .directory) (entry : FileEntry)
    {start found : Location} {names : List String} (walked : tree.walk start names = .ok found) :
    (tree.insert location entry).walk start names = .ok found := by
  induction names generalizing start with
  | nil => exact walked
  | cons name names ih =>
    rw [walk, List.foldlM_cons, Success.bind_eq_ok_iff] at walked ⊢
    obtain ⟨next, stepped, walked⟩ := walked
    refine ⟨next, ?_, ih walked⟩
    have directory : tree.entry? start = some .directory := by
      rw [step] at stepped
      split at stepped
      · cases stepped
      · assumption
      · cases stepped
    have stays : FileTree.entry? (tree.insert location entry) start = some .directory := by
      rw [entry?_insert (ne_root_of_free free), if_neg, directory]
      rintro rfl
      exact free directory
    rw [step, directory] at stepped
    rw [step, stays]
    exact stepped

theorem locate_insert (free : tree.entry? location ≠ some .directory) (entry : FileEntry)
    {path : String} {found : Location} (located : tree.locate path = .ok found) :
    (tree.insert location entry).locate path = .ok found := by
  rw [locate] at located ⊢
  split at located
  · cases located
  · split at located
    · cases located
    · rename_i usable given
      rw [if_neg usable, if_neg given]
      exact walk_insert free entry located

theorem fileAt?_insert_text (free : tree.entry? location ≠ some .directory) (text : String)
    (other : Location) :
    (tree.insert location (.text text)).fileAt? other =
      if other = location then some (.text text) else tree.fileAt? other := by
  rw [fileAt?, entry?_insert (ne_root_of_free free)]
  split
  · rfl
  · rfl

/-! ## The view -/

theorem run_makeDirectories (path : String) (tree : FileTree) :
    (MonadFiles.makeDirectories path : StateM FileTree Bool).run tree =
      match tree.makeDirectories? path with
      | some grown => (true, grown)
      | none => (false, tree) := by
  cases made : tree.makeDirectories? path with
  | none =>
    simp [MonadFiles.makeDirectories, made]
    rfl
  | some grown =>
    simp [MonadFiles.makeDirectories, made]
    rfl

theorem run_writeText (path text : String) (tree : FileTree) :
    (MonadFiles.writeText path text : StateM FileTree Bool).run tree =
      match tree.writeText? path text with
      | some grown => (true, grown)
      | none => (false, tree) := by
  cases written : tree.writeText? path text with
  | none =>
    simp [MonadFiles.writeText, written]
    rfl
  | some grown =>
    simp [MonadFiles.writeText, written]
    rfl

/-- The files of a tree by location. -/
def view : FileView FileTree where
  Place := Location
  place? tree path := (tree.locate path).toOption
  file? := fileAt?
  kept_readText? _ _ := rfl
  kept_isPresent _ _ := rfl
  kept_makeDirectories path tree := by
    rw [run_makeDirectories]
    cases made : tree.makeDirectories? path with
    | none => rfl
    | some grown => exact fileAt?_makeDirectories? made
  refused {path text tree after} ended := by
    rw [run_writeText] at ended
    split at ended
    · cases ended
    · cases ended
      rfl
  written {path text tree after} ended := by
    rw [run_writeText] at ended
    split at ended
    · rename_i written
      cases ended
      obtain ⟨location, located, free, rfl⟩ := writeText?_eq_some written
      refine ⟨location, ?_, ?_, fun other apart => ?_⟩
      · rw [locate_insert free _ located]
        rfl
      · rw [fileAt?_insert_text free, if_pos rfl]
      · rw [fileAt?_insert_text free, if_neg apart]
    · cases ended
  settled path text other tree place leads := by
    have located := Success.toOption_eq_some_iff.mp leads
    rw [run_writeText]
    split
    · rename_i written
      obtain ⟨location, _, free, rfl⟩ := writeText?_eq_some written
      exact Success.toOption_eq_some_iff.mpr (locate_insert free _ located)
    · exact leads

theorem text?_view (tree : FileTree) (path : String) :
    view.text? tree path = tree.readText? path := by
  show ((tree.locate path).toOption.bind tree.fileAt?).bind FileEntry.text? = _
  rw [readText?, find?]
  cases tree.locate path with
  | error cause => rfl
  | ok location =>
    show (tree.fileAt? location).bind FileEntry.text? = _
    rw [fileAt?]
    dsimp only
    cases tree.entry? location with
    | none => rfl
    | some entry => cases entry <;> rfl

end FileTree

end SandboxRpc
