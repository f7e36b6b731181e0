import SandboxRpc.Json.Literal

/-!
# JSON values

A JSON value keeps what is written: the members of an object in their order, repeated names
included, and string literals before their escapes are read. Of numbers it tells apart integers and
the rest.
-/

namespace SandboxRpc

namespace Json

/-- A number. Negative zero counts among the numbers that are not integers. -/
inductive Number where
  | integer (value : Int)
  /-- A number with a fraction or an exponent, or negative zero, as it is written. -/
  | decimal (written : List Char)
deriving DecidableEq, Repr, Inhabited

end Json

/-- A JSON value as it is written. -/
inductive Json where
  | null
  | bool (value : Bool)
  | number (value : Json.Number)
  | string (literal : Json.Literal)
  | array (items : List Json)
  | object (members : List (Json.Literal × Json))
deriving Repr, Inhabited

namespace Json

/-- The string value with this text. -/
def text (value : String) : Json := .string (.ofString value)

/-- The object with these members, under names given as text. -/
def record (members : List (String × Json)) : Json :=
  .object (members.map fun entry => (.ofString entry.1, entry.2))

end Json

end SandboxRpc
