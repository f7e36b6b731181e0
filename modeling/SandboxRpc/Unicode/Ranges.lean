/-!
# Ranges of characters

Classes of characters are given by ranges of code points, both ends included.
-/

namespace SandboxRpc.Unicode

/-- Code points from one to another, both included. -/
abbrev Ranges := List (Nat × Nat)

/-- Whether a character lies in one of the ranges. -/
def Ranges.contains (ranges : Ranges) (c : Char) : Bool :=
  ranges.any fun range => range.1 ≤ c.toNat ∧ c.toNat ≤ range.2

end SandboxRpc.Unicode
