import SandboxRpc.Json.Basic

/-!
# Writing JSON

`Json.pretty` lays a value out over several lines, with two more spaces of indentation for each
array or object. Empty arrays and objects are written in one piece.
-/

namespace SandboxRpc.Json

/-- A new line, indented to a depth. -/
def newline (depth : Nat) : List Char :=
  '\n' :: List.replicate (2 * depth) ' '

/-- A string literal with its quotes. -/
def Literal.quoted (literal : Literal) : List Char :=
  '"' :: literal.written ++ ['"']

/-- A number as it is written. -/
def Number.written : Number → List Char
  | .integer value => (toString value).toList
  | .decimal written => written

mutual

/-- A value at a depth. -/
def prettyAt (depth : Nat) : Json → List Char
  | .null => ['n', 'u', 'l', 'l']
  | .bool true => ['t', 'r', 'u', 'e']
  | .bool false => ['f', 'a', 'l', 's', 'e']
  | .number value => value.written
  | .string literal => literal.quoted
  | .array [] => ['[', ']']
  | .array (item :: items) =>
    '[' :: newline (depth + 1) ++ prettyAt (depth + 1) item ++
      (prettyItems (depth + 1) items ++ newline depth ++ [']'])
  | .object [] => ['\x7b', '\x7d']
  | .object ((name, value) :: members) =>
    '\x7b' :: newline (depth + 1) ++ name.quoted ++ [':', ' '] ++ prettyAt (depth + 1) value ++
      (prettyMembers (depth + 1) members ++ newline depth ++ ['\x7d'])

/-- The items of an array after the first. -/
def prettyItems (depth : Nat) : List Json → List Char
  | [] => []
  | item :: items => ',' :: newline depth ++ prettyAt depth item ++ prettyItems depth items

/-- The members of an object after the first. -/
def prettyMembers (depth : Nat) : List (Literal × Json) → List Char
  | [] => []
  | (name, value) :: members =>
    ',' :: newline depth ++ name.quoted ++ [':', ' '] ++ prettyAt depth value ++
      prettyMembers depth members

end

/-- The text of a value, without a line end after it. -/
def pretty (value : Json) : String :=
  String.ofList (prettyAt 0 value)

end SandboxRpc.Json
