import SandboxRpc.Parser
import SandboxRpc.Toml.Scalar
import SandboxRpc.Toml.Text

/-!
# The syntax of TOML

`Toml.parse?` reads a document as a list of statements: headers, which open tables, and
assignments. What they mean together is another matter (`Toml.Table`).

Keys have fewer than `longestKey` parts, and fewer than `deepestNesting` arrays and inline tables
stand in one another.
-/

namespace SandboxRpc.Toml

/-- A value as it is written. -/
inductive Expression where
  | scalar (value : Scalar)
  | array (items : List Expression)
  /-- Assignments between braces, each to a key of one or more parts. -/
  | inlineTable (entries : List (List String × Expression))
deriving Repr, Inhabited

inductive Statement where
  /-- Gives a value to a key of the table that is open. -/
  | assignment (key : List String) (value : Expression)
  /-- Opens a table. -/
  | table (key : List String)
  /-- Opens a new table at the end of a list of tables. -/
  | element (key : List String)
deriving Repr, Inhabited

open SandboxRpc.Parser

/-! ## Blanks and comments -/

def spaces : Parser Unit := discard (takeWhile isSpace)

/-- A line end, which has to come next unless the text is over. -/
def lineEnd : Parser Unit := fun cs =>
  if cs.isEmpty then some ((), []) else (afterNewline? cs).map ((), ·)

/-- A comment, if one comes next: up to the end of the line, and without control characters. -/
def comment : Parser Unit := do
  if ← take '#' then discard (takeWhile isPlain)

/-- What may follow a statement on its line. -/
def restOfLine : Parser Unit := do
  spaces
  comment
  lineEnd

/-- Blanks, line ends and comments, which may stand between the items of an array. -/
def layout : Parser Unit :=
  discard <| many do
    let before ← get
    spaces
    comment
    match ← peek with
    | some c =>
      if c = '\n' ∨ c = '\r' then lineEnd
      return if (← get).length < before.length then some () else none
    | none => return none

/-! ## Keys -/

/-- The least number of parts that a key must not have. -/
def longestKey : Nat := 80

def isBareKeyCharacter (c : Char) : Bool :=
  c.isAlphanum || c = '_' || c = '-'

/-- One part of a key: a bare word or a string on one line. -/
def keyPart : Parser String := do
  match ← peek with
  | some '"' => do
    expect '"'
    String.ofList <$> basicString?
  | some '\'' => do
    expect '\''
    String.ofList <$> literalString?
  | _ => do
    let word ← takeWhile isBareKeyCharacter
    if word.isEmpty then failure else return String.ofList word

/-- A part of a key with the blanks around it. -/
def spacedKeyPart : Parser String := do
  spaces
  let part ← keyPart
  spaces
  return part

/-- A key of one or more parts with dots between them. -/
def key : Parser (List String) := do
  let first ← spacedKeyPart
  let others ← many do
    if ← take '.' then some <$> spacedKeyPart else return none
  let parts := first :: others
  if parts.length < longestKey then return parts else failure

/-! ## Values -/

/-- The least number of arrays and inline tables that must not stand in one another. -/
def deepestNesting : Nat := 80

/-- A value without quotes. A date and a time may have a space between them. -/
def bareValue : Parser Scalar := do
  let run ← takeWhile isBareCharacter
  let rest ← get
  match isDate run, rest with
  | true, ' ' :: c :: _ =>
    -- A digit after the space can only begin a time: nothing else may follow a value.
    if Numeral.isDigit 10 c then
      expect ' '
      let time ← takeWhile isBareCharacter
      if isOffsetTime time then return .dateTime else failure
    else return .dateTime
  | _, _ => Scalar.ofBare? run

/-- What comes after an item of an array: a comma or, left in place, the end. -/
def itemEnd : Parser Unit := do
  unless ← take ',' do
    unless (← peek) = some ']' do failure

/-- The items of an array, after its bracket; a comma may follow the last one. -/
def items (value : Parser Expression) : Parser (List Expression) := do
  let found ← many do
    layout
    if (← peek) = some ']' then return none
    let item ← value
    layout
    itemEnd
    return some item
  expect ']'
  return found

/-- A key with its value. -/
def assignment (value : Parser Expression) : Parser (List String × Expression) := do
  let key ← key
  expect '='
  spaces
  return (key, ← value)

/-- The entries of an inline table, after its brace; they stand on one line. -/
def entries (value : Parser Expression) : Parser (List (List String × Expression)) := do
  spaces
  if ← take '\x7d' then return []
  let first ← assignment value
  spaces
  let others ← many do
    if ← take ',' then
      let entry ← assignment value
      spaces
      return some entry
    else return none
  expect '\x7d'
  return first :: others

/-- A value with at most `levels` arrays and inline tables in one another. -/
def value (levels : Nat) : Parser Expression := do
  match levels, ← peek with
  -- With no level left a bracket or brace is not a value at all.
  | _, some '"' => (fun text => .scalar (.string (String.ofList text))) <$> string?
  | _, some '\'' => (fun text => .scalar (.string (String.ofList text))) <$> string?
  | levels + 1, some '[' => do
    expect '['
    .array <$> items (value levels)
  | levels + 1, some '\x7b' => do
    expect '\x7b'
    .inlineTable <$> entries (value levels)
  | _, _ => .scalar <$> bareValue

/-! ## Statements -/

/-- A header after its first bracket: a key between brackets, which are doubled for an element. -/
def header : Parser Statement := do
  if ← take '[' then
    let key ← key
    expect ']'
    expect ']'
    return .element key
  else
    let key ← key
    expect ']'
    return .table key

/-- One line of a document: a statement, or nothing but blanks and a comment. -/
def line : Parser (Option Statement) := do
  spaces
  match ← peek with
  | some '[' => do
    expect '['
    let statement ← header
    restOfLine
    return some statement
  | none | some '#' | some '\n' | some '\r' => do
    restOfLine
    return none
  | _ => do
    let (key, value) ← assignment (value (deepestNesting - 1))
    restOfLine
    return some (.assignment key value)

/-- The statements of a document. -/
def document : Parser (List Statement) := do
  let lines ← many do
    if (← get).isEmpty then return none else some <$> line
  return lines.filterMap id

/-- The statements of a document's text. A byte order mark in front does not count. -/
def parse? (text : String) : Option (List Statement) :=
  let cs := match text.toList with
    | '\ufeff' :: rest => rest
    | cs => cs
  (document cs).map Prod.fst

end SandboxRpc.Toml
