import SandboxRpc.Json.Token

/-!
# Reading JSON

`Json.parse?` reads a JSON text. The reader takes one token after another and keeps the arrays and
objects that are still open on a stack, so that nesting is limited by nothing here.
-/

namespace SandboxRpc.Json

/-- An array or object that is still open. What is complete in it comes in reverse. -/
inductive Frame where
  | array (items : List Json)
  /-- The value of the last name is still to come. -/
  | object (members : List (Literal × Json)) (name : Literal)
deriving Repr

/-- What the reader awaits, within the frames that are open. -/
inductive Reader where
  | awaitingValue (frames : List Frame)
  /-- A value, or the end of an array that has just begun. -/
  | awaitingFirstItem (frames : List Frame)
  /-- A name, or the end of an object that has just begun. -/
  | awaitingFirstName (frames : List Frame)
  /-- The name of a further member. -/
  | awaitingName (members : List (Literal × Json)) (frames : List Frame)
  | awaitingColon (members : List (Literal × Json)) (name : Literal) (frames : List Frame)
  /-- A value is complete; what follows tells where it belongs. -/
  | complete (value : Json) (frames : List Frame)
deriving Repr

namespace Reader

/-- The reader at the start of a text. -/
def start : Reader := .awaitingValue []

/-- Begins a value. -/
def begin? (frames : List Frame) : Token → Option Reader
  | .null => some (.complete .null frames)
  | .bool value => some (.complete (.bool value) frames)
  | .number value => some (.complete (.number value) frames)
  | .string literal => some (.complete (.string literal) frames)
  | .openBracket => some (.awaitingFirstItem frames)
  | .openBrace => some (.awaitingFirstName frames)
  | _ => none

/-- Goes on after a complete value in the innermost frame. -/
def continue? (value : Json) : List Frame → Token → Option Reader
  | .array items :: frames, .comma => some (.awaitingValue (.array (value :: items) :: frames))
  | .array items :: frames, .closeBracket =>
    some (.complete (.array (value :: items).reverse) frames)
  | .object members name :: frames, .comma =>
    some (.awaitingName ((name, value) :: members) frames)
  | .object members name :: frames, .closeBrace =>
    some (.complete (.object ((name, value) :: members).reverse) frames)
  | _, _ => none

/-- Takes one token. -/
def step? : Reader → Token → Option Reader
  | .awaitingValue frames, token => begin? frames token
  | .awaitingFirstItem frames, .closeBracket => some (.complete (.array []) frames)
  | .awaitingFirstItem frames, token => begin? (.array [] :: frames) token
  | .awaitingFirstName frames, .closeBrace => some (.complete (.object []) frames)
  | .awaitingFirstName frames, .string name => some (.awaitingColon [] name frames)
  | .awaitingName members frames, .string name => some (.awaitingColon members name frames)
  | .awaitingColon members name frames, .colon =>
    some (.awaitingValue (.object members name :: frames))
  | .complete value frames, token => continue? value frames token
  | _, _ => none

/-- The value that was read, at the end of a text. -/
def result? : Reader → Option Json
  | .complete value [] => some value
  | _ => none

end Reader

/-- The value that a sequence of tokens writes. -/
def ofTokens? (tokens : List Token) : Option Json :=
  (tokens.foldlM Reader.step? .start).bind Reader.result?

/-- The value that a JSON text writes. -/
def parse? (text : String) : Option Json :=
  (Token.scan? text).bind ofTokens?

end SandboxRpc.Json
