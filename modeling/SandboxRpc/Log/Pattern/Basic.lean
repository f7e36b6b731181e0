import SandboxRpc.Log.Pattern.Bracket
import SandboxRpc.Unicode.Numeric

/-!
# Patterns

A log filter compares fields with regular expressions. `Pattern.check` tells whether one can be
used.

- The syntax has groups with and without names, alternatives, repetitions, flags, escapes and
  bracketed classes with set operations. It has no look-around, no references back, and, since a
  closing brace ends a field, nothing that needs braces.
- A pattern is about characters unless its flag `u` is off, and about bytes then, where what is not
  ASCII must not be matched by accident.
- There are no tables of character properties. So classes such as `\d` are refused for characters,
  as is matching letters of either case; and word boundaries can be written, but not used.
- `deepest` bounds how far groups, classes, repetitions and sequences stand in one another.
-/

namespace SandboxRpc

/-- Why a pattern cannot be used. -/
inductive PatternError where
  | malformed
  /-- It asks for boundaries of words, which need a table of letters. -/
  | wordBoundary
deriving DecidableEq, Repr

namespace Pattern

open SandboxRpc.Parser

/-- A part of a sequence. -/
structure Part where
  height : Nat := 0
  /-- Whether it can be repeated, as all but flags can. -/
  isRepeatable : Bool := true
deriving Repr

/-- What is known of a group up to a place. -/
structure Progress where
  mode : Mode := {}
  /-- The names of groups so far. -/
  names : List String := []
  /-- Whether boundaries of words are asked for. -/
  hasBoundary : Bool := false
  /-- How deep the alternatives before this one go. -/
  alternatives : List Nat := []
  /-- The parts of this alternative, the last one first. -/
  parts : List Part := []
deriving Repr

namespace Progress

def add (progress : Progress) (part : Part) : Progress :=
  { progress with parts := part :: progress.parts }

/-- How deep the present alternative goes. -/
def sequenceHeight (progress : Progress) : Nat :=
  groupHeight (progress.parts.map Part.height)

def height (progress : Progress) : Nat :=
  groupHeight (progress.sequenceHeight :: progress.alternatives)

def alternative (progress : Progress) : Progress :=
  { progress with
    alternatives := progress.sequenceHeight :: progress.alternatives
    parts := [] }

/-- Repeats the last part, which there has to be. -/
def repeated (progress : Progress) : Option Progress :=
  match progress.parts with
  | [] => none
  | part :: parts =>
    if part.isRepeatable then
      some { progress with parts := { height := part.height + 1 } :: parts }
    else none

/-- Adds an atom, if it may stand here. -/
def addAtom (progress : Progress) : Atom → Option Progress
  | .literal c isByte => if progress.mode.admitsLiteral c isByte then progress.add {} else none
  | .shorthand negated => if progress.mode.admitsShorthand negated then progress.add {} else none
  | .anchor => progress.add {}
  | .boundary =>
    some { progress.add {} with hasBoundary := progress.hasBoundary || progress.mode.unicode }

end Progress

/-- Whether characters make a name of a group. -/
def isGroupName : List Char → Bool
  | [] => false
  | c :: rest =>
    (c = '_' || Unicode.isAlphabetic c) &&
      rest.all fun c => c ∈ ['_', '.', '[', ']'] || Unicode.isAlphanumeric c

/-- The name of a group, which is new, up to its closing angle bracket. -/
def groupName (known : List String) : Parser String := do
  let name ← takeWhile (· ≠ '>')
  expect '>'
  require (isGroupName name && String.ofList name ∉ known)
  return String.ofList name

/-- Flags up to the colon or parenthesis after them; none comes twice. -/
def flags : Parser (List Char) := do
  let found ← takeWhile fun c => c ≠ ':' ∧ c ≠ ')'
  require (found.all (· ∈ '-' :: flagLetters) && found.Nodup && found.getLast? ≠ some '-')
  return found

/-- Whether a look-around comes next. -/
def isLookaround (cs : List Char) : Bool :=
  ["?=", "?!", "?<=", "?<!"].any fun start => start.toList.isPrefixOf cs

/-- Takes what comes before the name of a group. -/
def takeNameStart : Parser Bool := do
  if ← takeText ['?', 'P', '<'] then return true else takeText ['?', '<']

/-- What stands in a group up to its closing parenthesis. -/
def groupBody (inner : Progress → Parser Progress) (progress : Progress) (mode : Mode)
    (names : List String) : Parser Progress := do
  let inside ← inner { mode, names, hasBoundary := progress.hasBoundary }
  expect ')'
  return { progress.add { height := inside.height + 1 } with
    names := inside.names
    hasBoundary := inside.hasBoundary }

/-- A group, or flags for the rest of the group around, after the opening parenthesis. -/
def group (inner : Progress → Parser Progress) (progress : Progress) : Parser Progress := do
  let mode := progress.mode
  blanks mode
  require !(isLookaround (← get))
  if ← takeNameStart then
    let name ← groupName progress.names
    groupBody inner progress mode (name :: progress.names)
  else if ← take '?' then
    let flags ← flags
    if ← take ')' then
      -- Without flags the question mark would repeat something, and there is nothing.
      require (!flags.isEmpty)
      return { progress.add { isRepeatable := false } with mode := mode.withFlags flags }
    else
      expect ':'
      groupBody inner progress (mode.withFlags flags) progress.names
  else groupBody inner progress mode progress.names

/-- The next part of a group or bar between alternatives, unless the group ends. -/
def step (inner : Progress → Parser Progress) (levels : Nat) (progress : Progress) :
    Parser (Option Progress) := do
  blanks progress.mode
  match ← get with
  | [] | ')' :: _ => return none
  | c :: rest =>
    set rest
    match c with
    | '|' => return progress.alternative
    | '(' => some <$> group inner progress
    | '[' => return progress.add { height := ← bracketed progress.mode levels }
    | '?' | '*' | '+' =>
      let some repeated := progress.repeated | failure
      discard (take '?')
      return repeated
    | '{' => failure
    | '.' =>
      -- A dot would match any byte.
      require progress.mode.unicode
      return progress.add {}
    | '^' | '$' => return progress.add {}
    | '\\' =>
      let some progress := progress.addAtom (← escape progress.mode) | failure
      return progress
    | c =>
      let some progress := progress.addAtom (.literal c false) | failure
      return progress

/-- What stands in a group, with fewer than so many groups in one another. -/
def inGroup : Nat → Progress → Parser Progress
  | 0, _ => failure
  | levels + 1, progress => iterate (step (inGroup levels) levels) progress

/-- How deep a pattern may go. -/
def deepest : Nat := 250

/-- Whether a pattern can be used. -/
def check (cs : List Char) : Except PatternError Unit :=
  match (inGroup (deepest + 1) {}).run cs with
  | some (progress, []) =>
    if deepest < progress.height then .error .malformed
    else if progress.hasBoundary then .error .wordBoundary
    else .ok ()
  | _ => .error .malformed

end Pattern

end SandboxRpc
