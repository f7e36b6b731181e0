import SandboxRpc.Numeral

/-!
# TOML strings

Strings come in four forms. Between double quotes escapes are read, between single quotes everything
stands for itself; three quotes instead of one enclose text of several lines. Each reader takes what
follows the opening quotes and gives the text with what follows the closing ones.

Control characters other than tabs must be escaped. In text of several lines a line end right after
the opening quotes does not count, and every line end becomes a line feed.
-/

namespace SandboxRpc.Toml

/-- Whether a character may stand for itself in a string, quotes and backslashes apart. -/
def isPlain (c : Char) : Bool :=
  c = '\t' || (0x20 ≤ c.toNat && c.toNat ≠ 0x7F)

/-- A space or a tab. -/
def isSpace (c : Char) : Bool :=
  c = ' ' || c = '\t'

/-- What follows the line end that a text begins with. -/
def afterNewline? : List Char → Option (List Char)
  | '\n' :: rest => some rest
  | '\r' :: '\n' :: rest => some rest
  | _ => none

/-- The text without the line end that it may begin with. -/
def dropNewline (cs : List Char) : List Char :=
  (afterNewline? cs).getD cs

/-! ## Escapes -/

/-- The character whose code point hexadecimal digits write. -/
def codePoint? (digits : List Char) : Option Char := do
  let value ← Numeral.value? 16 digits
  if value.isValidChar then some (Char.ofNat value) else none

/-- The character that a backslash and a letter stand for. -/
def unescape? : Char → Option Char
  | 'b' => some '\x08'
  | 'f' => some '\x0c'
  | 'n' => some '\n'
  | 'r' => some '\r'
  | 't' => some '\t'
  | '\\' => some '\\'
  | '"' => some '"'
  | _ => none

/-- The character that an escape stands for, after its backslash, and what follows. -/
def escape? : List Char → Option (Char × List Char)
  | 'u' :: rest =>
    if 4 ≤ rest.length then (codePoint? (rest.take 4)).map (·, rest.drop 4) else none
  | 'U' :: rest =>
    if 8 ≤ rest.length then (codePoint? (rest.take 8)).map (·, rest.drop 8) else none
  | letter :: rest => (unescape? letter).map (·, rest)
  | [] => none

theorem length_of_escape? {cs rest : List Char} {c : Char}
    (found : escape? cs = some (c, rest)) : rest.length < cs.length := by
  unfold escape? at found
  split at found
  · split at found
    · obtain ⟨_, _, same⟩ := Option.map_eq_some_iff.mp found
      grind
    · simp at found
  · split at found
    · obtain ⟨_, _, same⟩ := Option.map_eq_some_iff.mp found
      grind
    · simp at found
  · obtain ⟨_, _, same⟩ := Option.map_eq_some_iff.mp found
    grind
  · simp at found

/-! ## Strings on one line -/

/-- The rest of a string between double quotes. -/
def basicString? (cs : List Char) : Option (List Char × List Char) :=
  match cs with
  | [] => none
  | '"' :: rest => some ([], rest)
  | '\\' :: rest =>
    match found : escape? rest with
    | some (c, rest) =>
      have := length_of_escape? found
      (basicString? rest).map fun (text, rest) => (c :: text, rest)
    | none => none
  | c :: rest =>
    if isPlain c then (basicString? rest).map fun (text, rest) => (c :: text, rest) else none
termination_by cs.length

/-- The rest of a string between single quotes. -/
def literalString? : List Char → Option (List Char × List Char)
  | [] => none
  | '\'' :: rest => some ([], rest)
  | c :: rest =>
    if isPlain c then (literalString? rest).map fun (text, rest) => (c :: text, rest) else none

/-! ## Text of several lines -/

/-- What follows blanks and line ends. -/
def skipBlankLines : List Char → List Char
  | ' ' :: rest => skipBlankLines rest
  | '\t' :: rest => skipBlankLines rest
  | '\n' :: rest => skipBlankLines rest
  | '\r' :: '\n' :: rest => skipBlankLines rest
  | cs => cs

theorem length_skipBlankLines (cs : List Char) : (skipBlankLines cs).length ≤ cs.length := by
  fun_induction skipBlankLines cs <;> simp_all <;> omega

/-- What follows a backslash at the end of a line: the line end and all blanks after it are left
out of the text. -/
def continuation? (cs : List Char) : Option (List Char) :=
  (afterNewline? (cs.dropWhile isSpace)).map skipBlankLines

theorem length_of_continuation? {cs rest : List Char} (found : continuation? cs = some rest) :
    rest.length < cs.length := by
  obtain ⟨after, newline, same⟩ := Option.map_eq_some_iff.mp found
  have spaces := (List.dropWhile_suffix (l := cs) isSpace).length_le
  have blank := length_skipBlankLines after
  unfold afterNewline? at newline
  split at newline <;> grind

/-- The quotes that close a text of several lines, from a run of `count` quotes: the last three, and
before them up to two that belong to the text. A shorter run closes nothing. -/
def closingQuotes? (quote : Char) (count : Nat) : Option (List Char) :=
  if count < 3 then none else some (List.replicate (min (count - 3) 2) quote)

/-- The rest of a text of several lines between double quotes. -/
def multilineBasic? (cs : List Char) : Option (List Char × List Char) :=
  match cs with
  | [] => none
  | '"' :: rest =>
    let run := rest.takeWhile (· = '"')
    match closingQuotes? '"' (run.length + 1) with
    -- One quote is taken already; two closing ones and those of the text are still ahead.
    | some content => some (content, rest.drop (content.length + 2))
    | none => (multilineBasic? rest).map fun (text, rest) => ('"' :: text, rest)
  | '\\' :: rest =>
    match found : escape? rest with
    | some (c, rest) =>
      have := length_of_escape? found
      (multilineBasic? rest).map fun (text, rest) => (c :: text, rest)
    | none =>
      match found : continuation? rest with
      | some rest =>
        have := length_of_continuation? found
        multilineBasic? rest
      | none => none
  | '\r' :: '\n' :: rest => (multilineBasic? rest).map fun (text, rest) => ('\n' :: text, rest)
  | c :: rest =>
    if isPlain c ∨ c = '\n' then
      (multilineBasic? rest).map fun (text, rest) => (c :: text, rest)
    else none
termination_by cs.length

/-- The rest of a text of several lines between single quotes. -/
def multilineLiteral? : List Char → Option (List Char × List Char)
  | [] => none
  | '\'' :: rest =>
    let run := rest.takeWhile (· = '\'')
    match closingQuotes? '\'' (run.length + 1) with
    | some content => some (content, rest.drop (content.length + 2))
    | none => (multilineLiteral? rest).map fun (text, rest) => ('\'' :: text, rest)
  | '\r' :: '\n' :: rest => (multilineLiteral? rest).map fun (text, rest) => ('\n' :: text, rest)
  | c :: rest =>
    if isPlain c ∨ c = '\n' then
      (multilineLiteral? rest).map fun (text, rest) => (c :: text, rest)
    else none

/-- The string in any of the four forms that a text begins with. -/
def string? : List Char → Option (List Char × List Char)
  | '"' :: '"' :: '"' :: rest => multilineBasic? (dropNewline rest)
  | '"' :: rest => basicString? rest
  | '\'' :: '\'' :: '\'' :: rest => multilineLiteral? (dropNewline rest)
  | '\'' :: rest => literalString? rest
  | _ => none

end SandboxRpc.Toml
