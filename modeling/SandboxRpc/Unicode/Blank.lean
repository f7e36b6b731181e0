import SandboxRpc.Unicode.Ranges

/-!
# Blanks

The characters with the Unicode property `White_Space`: spaces of all widths and line ends.
-/

namespace SandboxRpc.Unicode

/-- The blanks, in ascending ranges. -/
def blankRanges : Ranges :=
  [(0x9, 0xD), (0x20, 0x20), (0x85, 0x85), (0xA0, 0xA0), (0x1680, 0x1680), (0x2000, 0x200A),
    (0x2028, 0x2029), (0x202F, 0x202F), (0x205F, 0x205F), (0x3000, 0x3000)]

/-- Whether a character is a blank. -/
def isBlank (c : Char) : Bool :=
  blankRanges.contains c

/-- A text without blanks around it. -/
def trim (cs : List Char) : List Char :=
  ((cs.dropWhile isBlank).reverse.dropWhile isBlank).reverse

end SandboxRpc.Unicode
