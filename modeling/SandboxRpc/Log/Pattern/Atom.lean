import SandboxRpc.Numeral
import SandboxRpc.Parser
import SandboxRpc.Unicode.Blank

/-!
# Atoms of patterns

The least things that a pattern asks for: characters, classes such as `\d`, ends of the text and
boundaries of words. Which of them may be used depends on the `Mode` that flags set.
-/

namespace SandboxRpc.Pattern

open SandboxRpc.Parser

/-! ## Modes -/

/-- How a part of a pattern is meant. -/
structure Mode where
  /-- About characters, not bytes. -/
  unicode : Bool := true
  /-- Letters match in either case. -/
  ignoresCase : Bool := false
  /-- Blanks and comments in the pattern do not count. -/
  skipsBlanks : Bool := false
deriving DecidableEq, Repr

/-- The letters of the flags. Three of them matter here: `i`, `u` and `x`. -/
def flagLetters : List Char := ['i', 'm', 's', 'R', 'U', 'u', 'x']

/-- The flags before a minus sign are set and those after it are cleared. -/
def Mode.withFlags (mode : Mode) (flags : List Char) : Mode :=
  let isSet := flags.takeWhile (· ≠ '-')
  let flag (letter : Char) (before : Bool) : Bool :=
    if letter ∈ isSet then true else if letter ∈ flags then false else before
  { unicode := flag 'u' mode.unicode
    ignoresCase := flag 'i' mode.ignoresCase
    skipsBlanks := flag 'x' mode.skipsBlanks }

/-- Whether a character may stand for itself. One given as a byte must be a whole character. -/
def Mode.admitsLiteral (mode : Mode) (c : Char) (isByte : Bool) : Bool :=
  if mode.unicode then !mode.ignoresCase else !isByte || c.toNat < 0x80

/-- Whether a class such as `\d` may stand here. -/
def Mode.admitsShorthand (mode : Mode) (negated : Bool) : Bool :=
  !mode.unicode && !negated

/-- Whether a character may be a member of a bracketed class. -/
def Mode.admitsMember (mode : Mode) (c : Char) : Bool :=
  if mode.unicode then !mode.ignoresCase else c.toNat < 0x80

/-- Whether a class such as `[:alpha:]` may be a member of a bracketed class. -/
def Mode.admitsNamed (mode : Mode) (negated : Bool) : Bool :=
  if mode.unicode then !mode.ignoresCase else !negated

/-- Blanks and comments, where they do not count. -/
def blanks (mode : Mode) : Parser Unit :=
  if mode.skipsBlanks then
    discard <| many do
      match ← peek with
      | none => return none
      | some c =>
        if c = '#' then
          discard (takeWhile (· ≠ '\n'))
          discard (take '\n')
          return some ()
        else if Unicode.isBlank c then some <$> discard next
        else return none
  else return ()

/-- Goes on only if a condition holds. -/
def require (condition : Bool) : Parser Unit :=
  if condition then return () else failure

/-! ## Escapes -/

/-- The least thing that a pattern can ask for. -/
inductive Atom where
  | literal (c : Char) (isByte : Bool)
  /-- A class such as `\d`, or its complement. -/
  | shorthand (negated : Bool)
  /-- An end of the text. -/
  | anchor
  | boundary
deriving DecidableEq, Repr

/-- A number of so many hexadecimal digits, with `value` read before. -/
def hexadecimal (mode : Mode) (value : Nat) : Nat → Parser Nat
  | 0 => do
    blanks mode
    return value
  | digits + 1 => do
    blanks mode
    match Numeral.digitValue? (← next) with
    | some digit => hexadecimal mode (16 * value + digit) digits
    | none => failure

/-- A character by its number. -/
def numbered (mode : Mode) (digits : Nat) : Parser Char := do
  let value ← hexadecimal mode 0 digits
  if value.isValidChar then return Char.ofNat value else failure

/-- Whether a backslash makes a character stand for itself. -/
def isEscapable (c : Char) : Bool :=
  c.toNat < 0x80 && !c.isAlphanum

/-- What follows a backslash. -/
def escape (mode : Mode) : Parser Atom := do
  match ← next with
  | 'x' => return .literal (← numbered mode 2) true
  | 'u' => return .literal (← numbered mode 4) false
  | 'U' => return .literal (← numbered mode 8) false
  | 'd' | 's' | 'w' => return .shorthand false
  | 'D' | 'S' | 'W' => return .shorthand true
  | 'A' | 'z' => return .anchor
  | 'b' | 'B' | '<' | '>' => return .boundary
  | 'a' => return .literal '\x07' false
  | 'f' => return .literal '\x0c' false
  | 'n' => return .literal '\n' false
  | 'r' => return .literal '\r' false
  | 't' => return .literal '\t' false
  | 'v' => return .literal '\x0b' false
  | c => if isEscapable c then return .literal c false else failure

end SandboxRpc.Pattern
