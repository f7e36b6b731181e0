import Std.Data.ExtTreeMap
import SandboxRpc.Files.Access
import SandboxRpc.Files.Path

/-!
# File trees

A `FileTree` is a file system held in memory: directories and files by location, and a working
directory that relative paths start from. A path is followed name by name, and every name but the
last has to lead to a directory; so does the last one if the path ends in a slash or a dot.

`FileTree` computations (`StateM FileTree`) are an instance of `MonadFiles`.
-/

namespace SandboxRpc

/-- A place in a file tree: the names on the way from the root. -/
abbrev Location := List String

/-- What stands at a location. -/
inductive FileEntry where
  | directory
  | text (content : String)
  /-- A file that is not UTF-8 text. -/
  | binary (content : ByteArray)

def FileEntry.isDirectory : FileEntry → Bool
  | directory => true
  | text _ | binary _ => false

def FileEntry.text? : FileEntry → Option String
  | text content => some content
  | directory | binary _ => none

/-- A file with these bytes. -/
def FileEntry.ofBytes (bytes : ByteArray) : FileEntry :=
  match String.fromUTF8? bytes with
  | some content => .text content
  | none => .binary bytes

/-- Why a path does not lead to what is wanted. -/
inductive AccessError where
  | missing
  | notDirectory
  | occupied
  /-- No file system takes such a path: it is too long or contains a NUL. -/
  | unusable
deriving DecidableEq, Repr

structure FileTree where
  entries : Std.ExtTreeMap Location FileEntry := ∅
  workingDirectory : Location := []

namespace FileTree

/-- Only an empty working directory. -/
def initial : FileTree where
  entries := .ofList [(["work"], FileEntry.directory)]
  workingDirectory := ["work"]

/-- What stands at a location. The root is a directory. -/
def entry? (tree : FileTree) (location : Location) : Option FileEntry :=
  if location = [] then some .directory else tree.entries[location]?

def insert (tree : FileTree) (location : Location) (entry : FileEntry) : FileTree :=
  { tree with entries := tree.entries.insert location entry }

/-! ## Following paths -/

/-- The longest name of a file or directory, in bytes. -/
def longestName : Nat := 255

/-- The longest path, in bytes. -/
def longestPath : Nat := 4095

/-- Where a path starts. -/
def startOf (tree : FileTree) (path : String) : Location :=
  if Path.isAbsolute path then [] else tree.workingDirectory

/-- Follows one name from a directory. -/
def step (tree : FileTree) (location : Location) (name : String) : Except AccessError Location :=
  match tree.entry? location with
  | none => .error .missing
  | some .directory =>
    if name = "." then .ok location
    else if name = ".." then .ok location.dropLast
    else if longestName < name.utf8ByteSize then .error .unusable
    else .ok (location ++ [name])
  | some _ => .error .notDirectory

/-- Follows several names. -/
def walk (tree : FileTree) (start : Location) (names : List String) :
    Except AccessError Location :=
  names.foldlM tree.step start

/-- Whether a path can be given to a file system at all. -/
def IsUsable (path : String) : Prop :=
  path.utf8ByteSize ≤ longestPath ∧ '\x00' ∉ path.toList

instance (path : String) : Decidable (IsUsable path) := inferInstanceAs (Decidable (_ ∧ _))

/-- The location that a path leads to. -/
def locate (tree : FileTree) (path : String) : Except AccessError Location :=
  if ¬ IsUsable path then .error .unusable
  else if path.isEmpty then .error .missing
  else
    let names := Path.segments path
    tree.walk (tree.startOf path) (if Path.endsInSlash path then names ++ ["."] else names)

/-- What a path leads to. -/
def find? (tree : FileTree) (path : String) : Option FileEntry :=
  match tree.locate path with
  | .ok location => tree.entry? location
  | .error _ => none

/-! ## Reading and writing -/

/-- The text of the file at a path. -/
def readText? (tree : FileTree) (path : String) : Option String :=
  match tree.find? path with
  | some (.text content) => some content
  | _ => none

/-- Makes a text the content of the file at a path. -/
def writeText? (tree : FileTree) (path content : String) : Option FileTree :=
  match tree.locate path with
  | .error _ => none
  | .ok location =>
    match tree.entry? location with
    | some .directory => none
    | _ => some (tree.insert location (.text content))

/-! ## Making directories -/

/-- Makes one directory. -/
def makeDirectory (tree : FileTree) (start : Location) (names : List String) :
    Except AccessError FileTree := do
  let location ← tree.walk start names
  match tree.entry? location with
  | some _ => throw .occupied
  | none => return tree.insert location .directory

/-- Whether names lead to a directory. -/
def isDirectory (tree : FileTree) (start : Location) (names : List String) : Bool :=
  match tree.walk start names with
  | .ok location => (tree.entry? location).any FileEntry.isDirectory
  | .error _ => false

/-- Makes a directory unless it is there. -/
def ensureDirectory (tree : FileTree) (start : Location) (names : List String) :
    Except AccessError FileTree :=
  match tree.makeDirectory start names with
  | .ok grown => .ok grown
  | .error cause => if tree.isDirectory start names then .ok tree else .error cause

/-- The names, in reverse, of the directory around the last one; dots at the end do not count. -/
def around (reversed : List String) : List String :=
  (reversed.dropWhile (· = ".")).tail.dropWhile (· = ".")

theorem length_around (name : String) (reversed : List String) :
    (around (name :: reversed)).length < (name :: reversed).length := by
  have outer := (List.dropWhile_suffix (l := name :: reversed) (· = ".")).length_le
  have inner := (List.dropWhile_suffix
    (l := ((name :: reversed).dropWhile (· = ".")).tail) (· = ".")).length_le
  simp only [around, List.length_tail, List.length_cons] at *
  omega

/-- Makes a directory, given by its names in reverse, with those around it that are missing. -/
def ensureDirectories (tree : FileTree) (start : Location) (reversed : List String) :
    Except AccessError FileTree :=
  match reversed with
  | [] => .ok tree
  | name :: outer =>
    match tree.ensureDirectory start (name :: outer).reverse with
    -- Only a missing directory around this one can be mended.
    | .error .missing => do
      let grown ← tree.ensureDirectories start (around (name :: outer))
      grown.ensureDirectory start (name :: outer).reverse
    | result => result
termination_by reversed.length
decreasing_by exact length_around name outer

/-- Makes the directory at a path, with those around it that are missing. The empty path stands for
the working directory. -/
def makeDirectories? (tree : FileTree) (path : String) : Option FileTree :=
  if IsUsable path then
    (tree.ensureDirectories (tree.startOf path) (Path.segments path).reverse).toOption
  else none

/-! ## Whole trees -/

/-- Puts an entry at a path, along with the directories around it. -/
def place (tree : FileTree) (path : String) (entry : FileEntry) : FileTree :=
  let names := (Path.segments path).filter (· ≠ ".")
  let start := tree.startOf path
  match tree.ensureDirectories start names.dropLast.reverse with
  | .ok grown => grown.insert (start ++ names) entry
  | .error _ => tree

/-- The files in the working directory that another tree does not have just so: their paths and,
where they are text, their content. -/
def newFiles (tree before : FileTree) : List (String × String) :=
  tree.entries.toList.filterMap fun (location, entry) =>
    match entry with
    | .text content =>
      if tree.workingDirectory.isPrefixOf location ∧
          (before.entry? location).bind FileEntry.text? ≠ some content then
        some ("/".intercalate (location.drop tree.workingDirectory.length), content)
      else none
    | _ => none

instance : MonadFiles (StateM FileTree) where
  readText? path := return (← get).readText? path
  isPresent path := return ((← get).find? path).isSome
  makeDirectories path := do
    match (← get).makeDirectories? path with
    | some tree => set tree; return true
    | none => return false
  writeText path content := do
    match (← get).writeText? path content with
    | some tree => set tree; return true
    | none => return false

end FileTree

end SandboxRpc
