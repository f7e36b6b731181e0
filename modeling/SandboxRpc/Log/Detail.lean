import SandboxRpc.Unicode.Extending
import SandboxRpc.Unicode.Hidden

/-!
# Details

A record of a log has details, which are written behind its message.

- A `text` is written as it is; if it has several lines, so has the record.
- A `quoted` text stays on its line: line ends in it, and all other characters that are not seen or
  not drawn on their own, are written with a backslash.
-/

namespace SandboxRpc

/-- A detail of what is logged. -/
inductive Detail where
  | text (value : String)
  | quoted (value : String)
  | quotedList (values : List String)
  | number (value : Nat)
  | flag (value : Bool)
deriving DecidableEq, Repr

namespace Detail

/-! ## Quoted texts -/

/-- A character by its number, such as `\u{a0}`. -/
def byNumber (c : Char) : List Char :=
  ['\\', 'u', '\x7b'] ++ Nat.toDigits 16 c.toNat ++ ['\x7d']

/-- A character of a quoted text. -/
def encodeChar (c : Char) : List Char :=
  if c = '\\' ∨ c = '"' then ['\\', c]
  else if c = '\n' then ['\\', 'n']
  else if c = '\r' then ['\\', 'r']
  else if c = '\t' then ['\\', 't']
  else if c = '\x00' then ['\\', '0']
  else if Unicode.isHidden c ∨ Unicode.isExtending c then byNumber c
  else [c]

/-- A text between quotes. -/
def quote (value : String) : String :=
  String.ofList ('"' :: value.toList.flatMap encodeChar ++ ['"'])

/-! ## Writing -/

/-- A detail as it is written. -/
def written : Detail → String
  | text value => value
  | quoted value => quote value
  | quotedList values => "[" ++ ", ".intercalate (values.map quote) ++ "]"
  | number value => toString value
  | flag value => if value then "true" else "false"

end Detail

end SandboxRpc
