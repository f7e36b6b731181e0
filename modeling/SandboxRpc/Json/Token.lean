import SandboxRpc.Json.Basic

/-!
# JSON tokens

`Token.scan?` cuts a JSON text into tokens. Blanks may stand between tokens; they are spaces, tabs
and line ends only. A control character must not stand in a string literal, and a number has no
leading zero.
-/

namespace SandboxRpc.Json

inductive Token where
  | openBracket
  | closeBracket
  | openBrace
  | closeBrace
  | comma
  | colon
  | null
  | bool (value : Bool)
  | number (value : Number)
  | string (literal : Literal)
deriving DecidableEq, Repr

/-- Whether a character may stand between tokens. -/
def isBlank (c : Char) : Bool :=
  c = ' ' || c = '\t' || c = '\n' || c = '\r'

/-! ## String literals -/

/-- The rest of a string literal after its opening quote, and what follows the closing one. -/
def literal? : List Char → Option (List Char × List Char)
  | [] => none
  | '"' :: rest => some ([], rest)
  | '\\' :: 'u' :: a :: b :: c :: d :: rest => do
    let _ ← Numeral.value? 16 [a, b, c, d]
    let (written, rest) ← literal? rest
    some ('\\' :: 'u' :: a :: b :: c :: d :: written, rest)
  | '\\' :: letter :: rest => do
    let _ ← unescape? letter
    let (written, rest) ← literal? rest
    some ('\\' :: letter :: written, rest)
  | c :: rest =>
    if c = '\\' ∨ c.toNat < 0x20 then none else do
      let (written, rest) ← literal? rest
      some (c :: written, rest)

/-! ## Numbers -/

/-- A run of one or more decimal digits at the start of a text, and what follows it. -/
def digits? (cs : List Char) : Option (List Char × List Char) :=
  match cs.takeWhile Char.isDigit with
  | [] => none
  | run => some (run, cs.dropWhile Char.isDigit)

/-- A fraction at the start of a text, if there is one. -/
def fraction? : List Char → Option (List Char × List Char)
  | '.' :: rest => (digits? rest).map fun found => ('.' :: found.1, found.2)
  | cs => some ([], cs)

/-- The sign of an exponent, if there is one. -/
def exponentSign : List Char → List Char × List Char
  | '+' :: rest => (['+'], rest)
  | '-' :: rest => (['-'], rest)
  | cs => ([], cs)

/-- An exponent at the start of a text, if there is one. -/
def exponent? : List Char → Option (List Char × List Char)
  | c :: rest =>
    if c = 'e' ∨ c = 'E' then
      let (sign, rest) := exponentSign rest
      (digits? rest).map fun found => (c :: sign ++ found.1, found.2)
    else some ([], c :: rest)
  | [] => some ([], [])

/-- The number that a sign, digits, a fraction and an exponent write. -/
def Number.ofParts (negative : Bool) (whole fraction exponent : List Char) : Number :=
  let magnitude := Numeral.value 10 whole
  if fraction = [] ∧ exponent = [] ∧ ¬ (negative ∧ magnitude = 0) then
    .integer (if negative then -(magnitude : Int) else magnitude)
  else .decimal ((if negative then ['-'] else []) ++ whole ++ fraction ++ exponent)

/-- An unsigned number at the start of a text, and what follows it. -/
def magnitude? (negative : Bool) (cs : List Char) : Option (Number × List Char) := do
  let (whole, rest) ← digits? cs
  if whole.head? = some '0' ∧ whole.length ≠ 1 then none else
    let (fraction, rest) ← fraction? rest
    let (exponent, rest) ← exponent? rest
    some (.ofParts negative whole fraction exponent, rest)

/-! ## Tokens -/

/-- A word that stands for a value. -/
def words : List (List Char × Token) :=
  [(['n', 'u', 'l', 'l'], .null), (['t', 'r', 'u', 'e'], .bool true),
    (['f', 'a', 'l', 's', 'e'], .bool false)]

/-- One of the `words` at the start of a text, and what follows it. -/
def word? (cs : List Char) : Option (Token × List Char) :=
  (words.find? (·.1.isPrefixOf cs)).map fun entry => (entry.2, cs.drop entry.1.length)

/-- The token at the start of a text, and what follows it. -/
def Token.next? (cs : List Char) : Option (Token × List Char) :=
  match cs with
  | [] => none
  | '[' :: rest => some (.openBracket, rest)
  | ']' :: rest => some (.closeBracket, rest)
  | '\x7b' :: rest => some (.openBrace, rest)
  | '\x7d' :: rest => some (.closeBrace, rest)
  | ',' :: rest => some (.comma, rest)
  | ':' :: rest => some (.colon, rest)
  | '"' :: rest => (literal? rest).map fun found => (.string ⟨found.1⟩, found.2)
  | '-' :: rest => (magnitude? true rest).map fun found => (.number found.1, found.2)
  | c :: rest =>
    if c.isDigit then (magnitude? false (c :: rest)).map fun found => (.number found.1, found.2)
    else word? (c :: rest)

/-! ### Scanning gets on -/

theorem length_of_literal? {cs written rest : List Char}
    (found : literal? cs = some (written, rest)) : rest.length < cs.length := by
  fun_induction literal? cs generalizing written rest <;>
    simp_all [Option.bind_eq_some_iff] <;> grind

theorem length_of_digits? {cs run rest : List Char} (found : digits? cs = some (run, rest)) :
    rest.length < cs.length := by
  have split := congrArg List.length (List.takeWhile_append_dropWhile (p := Char.isDigit) (l := cs))
  rw [digits?] at found
  split at found
  · simp at found
  · next nonempty =>
    have positive := List.length_pos_iff.mpr nonempty
    simp only [Option.some.injEq, Prod.mk.injEq] at found
    simp only [List.length_append] at split
    grind

theorem length_of_fraction? {cs run rest : List Char} (found : fraction? cs = some (run, rest)) :
    rest.length ≤ cs.length := by
  unfold fraction? at found
  split at found
  · obtain ⟨⟨digits, after⟩, inner, same⟩ := Option.map_eq_some_iff.mp found
    have := length_of_digits? inner
    grind
  · grind

theorem length_exponentSign (cs : List Char) : (exponentSign cs).2.length ≤ cs.length := by
  unfold exponentSign
  split <;> simp

theorem length_of_exponent? {cs run rest : List Char} (found : exponent? cs = some (run, rest)) :
    rest.length ≤ cs.length := by
  unfold exponent? at found
  split at found
  · next c after =>
    split at found
    · obtain ⟨⟨digits, last⟩, inner, same⟩ := Option.map_eq_some_iff.mp found
      have := length_of_digits? inner
      have := length_exponentSign after
      grind
    · grind
  · grind

theorem length_of_magnitude? {negative : Bool} {cs rest : List Char} {value : Number}
    (found : magnitude? negative cs = some (value, rest)) : rest.length < cs.length := by
  unfold magnitude? at found
  simp only [Option.bind_eq_bind, Option.bind_eq_some_iff] at found
  obtain ⟨⟨whole, afterWhole⟩, first, found⟩ := found
  split at found
  · simp at found
  · obtain ⟨⟨fraction, afterFraction⟩, second, found⟩ := Option.bind_eq_some_iff.mp found
    obtain ⟨⟨exponent, afterExponent⟩, third, found⟩ := Option.bind_eq_some_iff.mp found
    have := length_of_digits? first
    have := length_of_fraction? second
    have := length_of_exponent? third
    grind

theorem length_of_word? {cs rest : List Char} {token : Token}
    (found : word? cs = some (token, rest)) (nonempty : cs ≠ []) : rest.length < cs.length := by
  obtain ⟨entry, listed, same⟩ := Option.map_eq_some_iff.mp found
  have member := List.mem_of_find?_eq_some listed
  have positive : 0 < entry.1.length := by
    simp only [words, List.mem_cons, List.not_mem_nil, or_false] at member
    rcases member with rfl | rfl | rfl <;> simp
  have := List.length_pos_iff.mpr nonempty
  simp only [Prod.mk.injEq] at same
  rw [← same.2, List.length_drop]
  omega

/-- A token takes up at least one character. -/
theorem length_of_next? {cs rest : List Char} {token : Token}
    (found : Token.next? cs = some (token, rest)) : rest.length < cs.length := by
  unfold Token.next? at found
  split at found
  · simp at found
  all_goals try (simp only [Option.some.injEq, Prod.mk.injEq] at found; grind)
  · obtain ⟨_, inner, same⟩ := Option.map_eq_some_iff.mp found
    have := length_of_literal? inner
    grind
  · obtain ⟨_, inner, same⟩ := Option.map_eq_some_iff.mp found
    have := length_of_magnitude? inner
    grind
  · split at found
    · obtain ⟨_, inner, same⟩ := Option.map_eq_some_iff.mp found
      have := length_of_magnitude? inner
      grind
    · exact length_of_word? found (List.cons_ne_nil _ _)

/-- A token after blanks takes up at least one character. -/
theorem length_of_next?_dropWhile {cs after rest : List Char} {c : Char} {token : Token}
    (blanks : cs.dropWhile isBlank = c :: after)
    (found : Token.next? (c :: after) = some (token, rest)) : rest.length < cs.length := by
  have shorter := length_of_next? found
  have suffix := (List.dropWhile_suffix (l := cs) isBlank).length_le
  rw [blanks] at suffix
  omega

/-- Cuts what is left of a text into tokens, given those already found in reverse. -/
def Token.scanFrom? (found : List Token) (cs : List Char) : Option (List Token) :=
  match blanks : cs.dropWhile isBlank with
  | [] => some found.reverse
  | c :: after =>
    match next : Token.next? (c :: after) with
    | some (token, rest) =>
      have := length_of_next?_dropWhile blanks next
      Token.scanFrom? (token :: found) rest
    | none => none
termination_by cs.length

/-- The tokens of a text. -/
def Token.scan? (text : String) : Option (List Token) :=
  Token.scanFrom? [] text.toList

end SandboxRpc.Json
