/-!
# Pieces of a text

A text is cut at every occurrence of a mark; `pieces` keeps the empty pieces too.
-/

namespace SandboxRpc

/-- The pieces of a text between marks, of which there is always one more than marks. -/
def pieces (mark : Char) : List Char → List (List Char)
  | [] => [[]]
  | c :: rest =>
    if c = mark then [] :: pieces mark rest
    else
      match pieces mark rest with
      | [] => [[c]]
      | piece :: others => (c :: piece) :: others

end SandboxRpc
