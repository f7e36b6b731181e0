/-!
# Levels of a log

How much is logged, by name or by number: `warn` lets through errors and warnings, and so does `2`.
-/

namespace SandboxRpc

/-- How much is logged, from nothing to everything. -/
inductive LogLevel where
  | off
  | error
  | warn
  | info
  | debug
  | trace
deriving DecidableEq, Repr, Inhabited

namespace LogLevel

/-- The levels by name, in ascending order. -/
def names : List (String × LogLevel) :=
  [("off", off), ("error", error), ("warn", warn), ("info", info), ("debug", debug),
    ("trace", trace)]

/-- The level of a number, which may have a plus sign and leading zeros. -/
def ofNumber? (cs : List Char) : Option LogLevel :=
  let digits := if cs.head? = some '+' then cs.tail else cs
  if digits.isEmpty ∨ !digits.all Char.isDigit then none
  else
    match digits.dropWhile (· = '0') with
    | [] => some off
    | [c] => (names[c.toNat - '0'.toNat]?).map Prod.snd
    | _ => none

/-- The level that a text names, in letters of either case or by number. -/
def parse? (cs : List Char) : Option LogLevel :=
  (ofNumber? cs).or (names.lookup (String.ofList (cs.map Char.toLower)))

/-- How many levels are below. -/
def rank : LogLevel → Nat
  | off => 0
  | error => 1
  | warn => 2
  | info => 3
  | debug => 4
  | trace => 5

end LogLevel

end SandboxRpc
