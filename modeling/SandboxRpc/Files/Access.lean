/-!
# Access to files

What the analysis asks of the files around it. `MonadFiles` is all that it uses, so that it runs on
a `FileTree` as well as on a real file system.
-/

namespace SandboxRpc

/-- Computations that can read and write text files. Paths are relative to a working directory. -/
class MonadFiles (m : Type → Type) where
  /-- The text of a file, unless it cannot be read as one. -/
  readText? : String → m (Option String)
  /-- Whether a path leads to a file or directory. -/
  isPresent : String → m Bool
  /-- Makes a directory with all those around it that are missing; `false` if that fails. -/
  makeDirectories : String → m Bool
  /-- Makes a text the content of a file; `false` if that fails. -/
  writeText : String → String → m Bool

end SandboxRpc
