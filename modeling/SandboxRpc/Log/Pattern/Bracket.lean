import SandboxRpc.Log.Pattern.Atom

/-!
# Bracketed classes of patterns

A class lists characters, ranges and other classes between brackets; `&&`, `--` and `~~` combine what
stands before and after them. `bracketed` reads one and gives how deep it goes.
-/

namespace SandboxRpc.Pattern

open SandboxRpc.Parser

/-- How deep things that are put together go: one alone goes as deep as it does. -/
def groupHeight : List Nat → Nat
  | [] => 0
  | [height] => height
  | heights => heights.foldl max 0 + 1

/-- What is known of a class up to a place. -/
structure ClassProgress where
  /-- How deep the operand of the set operation before goes. -/
  left : Option Nat := none
  /-- How deep the members since then go. -/
  members : List Nat := []
deriving Repr

namespace ClassProgress

def height (progress : ClassProgress) : Nat :=
  match progress.left with
  | some left => max left (groupHeight progress.members) + 1
  | none => groupHeight progress.members

def add (progress : ClassProgress) (height : Nat) : ClassProgress :=
  { progress with members := height :: progress.members }

/-- What comes next is the right operand of a set operation. -/
def operate (progress : ClassProgress) : ClassProgress :=
  { left := some progress.height }

end ClassProgress

/-- The names of classes within classes. -/
def classNames : List String :=
  ["alnum", "alpha", "ascii", "blank", "cntrl", "digit", "graph", "lower", "print", "punct",
    "space", "upper", "word", "xdigit"]

/-- A class by name, such as `[:alpha:]` or `[:^alpha:]`: whether it is negated, and what follows
it. -/
def namedClass? : List Char → Option (Bool × List Char)
  | '[' :: ':' :: rest =>
    let negated := rest.head? = some '^'
    let rest := if negated then rest.tail else rest
    let name := String.ofList (rest.takeWhile (· ≠ ':'))
    match rest.dropWhile (· ≠ ':') with
    | ':' :: ']' :: rest => if name ∈ classNames then some (negated, rest) else none
    | _ => none
  | _ => none

/-- One character or class within a class. -/
def classAtom (mode : Mode) : Parser Atom := do
  if ← take '\\' then escape mode else return .literal (← next) false

/-- The character that seems to follow a dash: blanks are passed over where they do not count, and so
is the mark of a comment, but not its text. -/
def seenBehindDash (mode : Mode) (rest : List Char) : Option Char :=
  if mode.skipsBlanks then
    match rest.dropWhile Unicode.isBlank with
    | '#' :: comment => (comment.dropWhile Unicode.isBlank).head?
    | found => found.head?
  else rest.head?

/-- Whether the dash that comes next makes a range: not if a bracket or a dash seems to follow. -/
def dashMakesRange (mode : Mode) : Parser Bool := do
  match ← get with
  | '-' :: rest =>
    let after := seenBehindDash mode rest
    return after ≠ some ']' && after ≠ some '-'
  | _ => return false

/-- A member of a class: a range, or what a single atom stands for. -/
def classMember (mode : Mode) : Parser Unit := do
  let first ← classAtom mode
  blanks mode
  if ← dashMakesRange mode then
    expect '-'
    blanks mode
    match first, ← classAtom mode with
    | .literal first _, .literal last _ =>
      require (mode.admitsMember first && mode.admitsMember last && first ≤ last)
    | _, _ => failure
  else
    match first with
    | .literal c _ => require (mode.admitsMember c)
    | .shorthand negated => require (mode.admitsShorthand negated)
    | .anchor | .boundary => failure

/-- The next member of a class or operation between classes, unless the class ends. -/
def classStep (nested : Parser Nat) (mode : Mode) (progress : ClassProgress) :
    Parser (Option ClassProgress) := do
  blanks mode
  match ← get with
  | ']' :: _ => return none
  | '&' :: '&' :: rest | '-' :: '-' :: rest | '~' :: '~' :: rest =>
    set rest
    return progress.operate
  | '[' :: rest =>
    match namedClass? ('[' :: rest) with
    | some (negated, rest) =>
      set rest
      require (mode.admitsNamed negated)
      return progress.add 0
    | none =>
      set rest
      return progress.add (← nested)
  | _ =>
    classMember mode
    return progress.add 0

/-- The dashes at the start of a class, or else the bracket there: they stand for themselves. -/
def classStart (mode : Mode) : Parser ClassProgress := do
  let dashes ← many do
    if ← take '-' then some <$> blanks mode else return none
  let bracket ← if dashes.isEmpty then take ']' else pure false
  let members := List.replicate dashes.length 0 ++ if bracket then [0] else []
  require (members.isEmpty || mode.admitsMember '-')
  return { members }

/-- A class after its bracket, with at most so many classes in one another: how deep it goes. -/
def bracketed (mode : Mode) : Nat → Parser Nat
  | 0 => failure
  | levels + 1 => do
    blanks mode
    let negated ← take '^'
    if negated then blanks mode
    let inside ← iterate (classStep (bracketed mode levels) mode) (← classStart mode)
    expect ']'
    -- The complement of a set of bytes has bytes that are no characters.
    require (mode.unicode || !negated)
    return inside.height + 1

end SandboxRpc.Pattern
