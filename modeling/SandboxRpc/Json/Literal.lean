import SandboxRpc.Numeral

/-!
# JSON string literals

A `Literal` is a string as a JSON text writes it: the characters between the quotes, escapes and
all. `Literal.ofString` writes a string with as few escapes as possible and `Literal.text?` reads
one back.

A literal need not denote any text. An escape names a UTF-16 unit, and half of a surrogate pair is
no character; such a literal may still stand where nobody asks for its text.
-/

namespace SandboxRpc.Json

/-- The characters of a string literal, without its quotes. -/
structure Literal where
  written : List Char
deriving DecidableEq, Repr, Inhabited

/-- The characters with an escape of their own, each with the letter that stands for it. -/
def shortEscapes : List (Char × Char) :=
  [('"', '"'), ('\\', '\\'), ('\x08', 'b'), ('\x0c', 'f'), ('\n', 'n'), ('\r', 'r'), ('\t', 't')]

/-- The character that a backslash and this letter stand for. -/
def unescape? (letter : Char) : Option Char :=
  if letter = '/' then some '/'
  else (shortEscapes.find? (·.2 = letter)).map Prod.fst

namespace Literal

/-! ## Writing -/

/-- One of the sixteen lower-case hexadecimal digits. -/
def hexDigit (value : Nat) : Char :=
  if value < 10 then Char.ofNat ('0'.toNat + value) else Char.ofNat ('a'.toNat + value - 10)

/-- A character of a string literal. Quotes, backslashes and controls are escaped. -/
def escape (c : Char) : List Char :=
  match shortEscapes.find? (·.1 = c) with
  | some (_, letter) => ['\\', letter]
  | none =>
    if c.toNat < 0x20 then
      ['\\', 'u', '0', '0', hexDigit (c.toNat / 16), hexDigit (c.toNat % 16)]
    else [c]

def ofString (text : String) : Literal where
  written := text.toList.flatMap escape

/-! ## Reading -/

/-- Whether a UTF-16 unit is the first half of a surrogate pair. -/
def IsLeading (unit : Nat) : Prop := 0xD800 ≤ unit ∧ unit < 0xDC00

/-- Whether a UTF-16 unit is the second half of a surrogate pair. -/
def IsTrailing (unit : Nat) : Prop := 0xDC00 ≤ unit ∧ unit < 0xE000

instance (unit : Nat) : Decidable (IsLeading unit) := inferInstanceAs (Decidable (_ ∧ _))

instance (unit : Nat) : Decidable (IsTrailing unit) := inferInstanceAs (Decidable (_ ∧ _))

/-- The character that a surrogate pair stands for. -/
def pairedCharacter (leading trailing : Nat) : Char :=
  Char.ofNat (0x10000 + 0x400 * (leading - 0xD800) + (trailing - 0xDC00))

/-- The characters that a literal denotes, if it denotes any. -/
def characters? : List Char → Option (List Char)
  | [] => some []
  | '\\' :: 'u' :: a :: b :: c :: d :: '\\' :: 'u' :: e :: f :: g :: h :: rest => do
    let unit ← Numeral.value? 16 [a, b, c, d]
    let next ← Numeral.value? 16 [e, f, g, h]
    if IsLeading unit then
      if IsTrailing next then (pairedCharacter unit next :: ·) <$> characters? rest else none
    else if IsTrailing unit then none
    else (Char.ofNat unit :: ·) <$> characters? ('\\' :: 'u' :: e :: f :: g :: h :: rest)
  | '\\' :: 'u' :: a :: b :: c :: d :: rest => do
    let unit ← Numeral.value? 16 [a, b, c, d]
    if IsLeading unit ∨ IsTrailing unit then none
    else (Char.ofNat unit :: ·) <$> characters? rest
  | '\\' :: letter :: rest => do
    let character ← unescape? letter
    (character :: ·) <$> characters? rest
  | c :: rest => if c = '\\' then none else (c :: ·) <$> characters? rest

/-- The text that a literal denotes, if it denotes any. -/
def text? (literal : Literal) : Option String :=
  (characters? literal.written).map String.ofList

end Literal

end SandboxRpc.Json
