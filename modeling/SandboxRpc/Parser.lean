/-!
# Parsers

A `Parser` reads something at the start of a text and leaves the rest. There is no going back:
failure is final.

`Parser.iterate` repeats a step for as long as it makes headway, so that every parser ends.
-/

namespace SandboxRpc

/-- Reads something at the start of a text, and leaves the rest. Failure is final. -/
abbrev Parser := StateT (List Char) Option

namespace Parser

variable {α σ : Type}

/-- The next character, which is left in place. -/
def peek : Parser (Option Char) :=
  return (← get).head?

/-- Takes a character if it comes next. -/
def take (c : Char) : Parser Bool := fun cs =>
  match cs with
  | d :: rest => if c = d then some (true, rest) else some (false, cs)
  | [] => some (false, [])

/-- Takes a character, which has to come next. -/
def expect (c : Char) : Parser Unit := do
  unless ← take c do failure

/-- Takes the next character, which there has to be. -/
def next : Parser Char := fun cs =>
  match cs with
  | c :: rest => some (c, rest)
  | [] => none

/-- Takes several characters if they come next. -/
def takeText (text : List Char) : Parser Bool := fun cs =>
  if text.isPrefixOf cs then some (true, cs.drop text.length) else some (false, cs)

/-- Takes characters as long as they are of a kind. -/
def takeWhile (kind : Char → Bool) : Parser (List Char) := fun cs =>
  some (cs.takeWhile kind, cs.dropWhile kind)

/-- Repeats a step until it has no result. Each of them has to take up some of the text. -/
def iterate (step : σ → Parser (Option σ)) (state : σ) (cs : List Char) :
    Option (σ × List Char) :=
  match step state cs with
  | none => none
  | some (none, rest) => some (state, rest)
  | some (some next, rest) => if rest.length < cs.length then iterate step next rest else none
termination_by cs.length

/-- Reads items until there are no more. Each of them has to take up some of the text. -/
def many (item : Parser (Option α)) (cs : List Char) : Option (List α × List Char) :=
  match item cs with
  | none => none
  | some (none, rest) => some ([], rest)
  | some (some value, rest) =>
    if rest.length < cs.length then
      (many item rest).map fun (values, rest) => (value :: values, rest)
    else none
termination_by cs.length

end Parser

end SandboxRpc
