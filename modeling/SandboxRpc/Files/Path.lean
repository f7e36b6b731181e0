import SandboxRpc.Pieces

/-!
# Paths

Paths are kept as they are written. `Path.join` puts one behind another without tidying up, and
`Path.same` tells whether two are spelled alike up to repeated slashes and needless dots.
-/

namespace SandboxRpc.Path

/-- Whether a path starts from the root directory. -/
def isAbsolute (path : String) : Bool :=
  path.toList.head? = some '/'

/-- Whether a path ends in a slash. -/
def endsInSlash (path : String) : Bool :=
  path.toList.getLast? = some '/'

/-- The names in a path, from the outermost on. -/
def segments (path : String) : List String :=
  (pieces '/' path.toList).filterMap fun part =>
    if part.isEmpty then none else some (String.ofList part)

/-- The path of `name` as seen from `directory`. An absolute `name` stands for itself. -/
def join (directory name : String) : String :=
  if isAbsolute name || directory.isEmpty then name
  else if endsInSlash directory then directory ++ name
  else directory ++ "/" ++ name

/-- The names in a path that matter: a dot counts only at the start of a relative path. -/
def components (path : String) : List String :=
  match segments path with
  | [] => []
  | first :: rest =>
    let kept := rest.filter (· ≠ ".")
    if first = "." ∧ isAbsolute path then kept else first :: kept

/-- Whether two paths differ in spelling only. -/
def same (a b : String) : Bool :=
  isAbsolute a = isAbsolute b ∧ components a = components b

end SandboxRpc.Path
