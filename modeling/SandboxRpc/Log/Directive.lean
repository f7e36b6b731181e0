import SandboxRpc.Log.Level
import SandboxRpc.Log.Pattern.Basic

/-!
# Directives of a log filter

A directive sets the level for a part of the program: `target=level`, or
`target[span{field=value}]=level`, or a target or level alone. A target without a level is logged in
full.

Blanks around a directive are passed over to find its pieces, but the pieces are cut out of the text
as it was given, at those very places (`cut`). With blanks in front the pieces are therefore the
wrong ones, and a place may even fall inside a character.
-/

namespace SandboxRpc

/-- Why a text is no log filter. -/
inductive LogFilterError where
  | level
  | directive
  | field (cause : PatternError)
  /-- A piece of a directive begins or ends inside a character. -/
  | cut
deriving DecidableEq, Repr

/-- Why a pattern cannot be used, in words. -/
def PatternError.message : PatternError → String
  | malformed => "error building NFA"
  | wordBoundary =>
    "unsupported regex feature for DFAs: cannot build DFAs for regexes with Unicode word " ++
      "boundaries; switch to ASCII word boundaries, or heuristically enable Unicode word " ++
      "boundaries or use a different regex engine"

def LogFilterError.message : LogFilterError → String
  | level =>
    "error parsing level filter: expected one of \"off\", \"error\", \"warn\", \"info\", " ++
      "\"debug\", \"trace\", or a number 0-5"
  | directive => "invalid filter directive"
  | field cause => s!"invalid field filter: {cause.message}"
  | cut => "a piece of a filter directive begins or ends inside a character"

/-- One directive of a log filter. -/
structure LogDirective where
  /-- The part of the program that it is about; without one, all of it. -/
  target : Option String
  /-- The detail that a record must have. -/
  field : Option String := none
  /-- Whether it holds only within certain spans of execution. -/
  inSpan : Bool := false
  level : LogLevel
deriving DecidableEq, Repr

namespace LogDirective

/-! ## Pieces of a directive -/

/-- The number of bytes of a text. -/
def size (cs : List Char) : Nat :=
  cs.foldr (fun c bytes => c.utf8Size + bytes) 0

/-- A text without its first so many bytes, unless they end inside a character. -/
def dropBytes? : Nat → List Char → Option (List Char)
  | 0, cs => some cs
  | _ + 1, [] => none
  | count + 1, c :: cs =>
    if c.utf8Size ≤ count + 1 then dropBytes? (count + 1 - c.utf8Size) cs else none

/-- The first so many bytes of a text, unless they end inside a character. -/
def takeBytes? : Nat → List Char → Option (List Char)
  | 0, _ => some []
  | _ + 1, [] => none
  | count + 1, c :: cs =>
    if c.utf8Size ≤ count + 1 then (takeBytes? (count + 1 - c.utf8Size) cs).map (c :: ·) else none

/-- The piece of a text from one byte up to another. -/
def cut (whole : List Char) (start stop : Nat) : Except LogFilterError (List Char) :=
  match (dropBytes? start whole).bind (takeBytes? (stop - start)) with
  | some piece => .ok piece
  | none => .error .cut

/-- The rest of a text from a byte on. -/
def cutFrom (whole : List Char) (start : Nat) : Except LogFilterError (List Char) :=
  match dropBytes? start whole with
  | some piece => .ok piece
  | none => .error .cut

/-! ## Fields -/

/-- Whether characters write an exponent, or there are none. -/
def isExponent : List Char → Bool
  | [] => true
  | e :: rest =>
    let digits := if rest.head? = some '+' ∨ rest.head? = some '-' then rest.tail else rest
    e.toLower = 'e' && !digits.isEmpty && digits.all Char.isDigit

/-- Whether characters write a number: digits with or without a point and an exponent, or the name
of a number that is not finite. -/
def isNumeral (cs : List Char) : Bool :=
  let unsigned := if cs.head? = some '+' ∨ cs.head? = some '-' then cs.tail else cs
  let whole := unsigned.takeWhile Char.isDigit
  let rest := unsigned.dropWhile Char.isDigit
  let hasPoint := rest.head? = some '.'
  let fraction := if hasPoint then rest.tail.takeWhile Char.isDigit else []
  let exponent := if hasPoint then rest.tail.dropWhile Char.isDigit else rest
  String.ofList (unsigned.map Char.toLower) ∈ ["inf", "infinity", "nan"] ||
    (!(whole ++ fraction).isEmpty && isExponent exponent)

/-- A field of a directive. -/
structure Field where
  name : String
  /-- Whether it must have a certain value. -/
  hasValue : Bool
deriving DecidableEq, Repr

/-- A field is a name alone or a name and a value, which is a number or a pattern. -/
def readField (field : List Char) : Except LogFilterError Field := do
  let name := String.ofList (field.takeWhile (· ≠ '='))
  match field.dropWhile (· ≠ '=') with
  | [] => return { name, hasValue := false }
  | _ :: rest =>
    -- A second equals sign ends the value, and what comes after it does not count.
    let value := rest.takeWhile (· ≠ '=')
    unless isNumeral value do (Pattern.check value).mapError .field
    return { name, hasValue := true }

/-! ## Reading a directive -/

/-- Whether a directive may start with a character, brackets apart. -/
def startsTarget (c : Char) : Bool :=
  c ∈ ['-', ':', '_'] || Unicode.isAlphanumeric c

/-- A directive whose level starts at a place; an empty one means everything. -/
def withLevel (whole : List Char) (directive : LogDirective) (start : Nat) :
    Except LogFilterError LogDirective := do
  let text ← cutFrom whole start
  if text.isEmpty then return directive
  match LogLevel.parse? text with
  | some level => return { directive with level }
  | none => throw .level

/-- A directive after its target and span. -/
def afterSpan (whole : List Char) (directive : LogDirective) (start : Nat) :
    List Char → Except LogFilterError LogDirective
  | [] => .ok directive
  | '=' :: _ => withLevel whole directive (start + 1)
  | _ => .error .directive

/-- A directive after the brace in front of its field. -/
def withField (whole : List Char) (directive : LogDirective) (start : Nat) (cs : List Char) :
    Except LogFilterError LogDirective :=
  let stop := start + size (cs.takeWhile (· ≠ '\x7d'))
  match cs.dropWhile (· ≠ '\x7d') with
  | [] => .error .directive
  | _ :: rest => do
    let text ← cut whole start stop
    if text.isEmpty then throw .directive
    let field ← readField text
    -- Values are known only within spans.
    let inSpan := directive.inSpan || field.hasValue
    match rest with
    | ']' :: rest =>
      afterSpan whole { directive with field := some field.name, inSpan } (stop + 2) rest
    | _ => throw .directive

/-- A directive after the bracket in front of its span. -/
def withSpan (whole : List Char) (target : Option String) (start : Nat) (cs : List Char) :
    Except LogFilterError LogDirective :=
  let endsName (c : Char) : Bool := c = ']' || c = '\x7b'
  let stop := start + size (cs.takeWhile (!endsName ·))
  match cs.dropWhile (!endsName ·) with
  | [] => .error .directive
  | mark :: rest => do
    let name ← cut whole start stop
    if mark = ']' then afterSpan whole { target, inSpan := true, level := .trace } (stop + 1) rest
    else
      -- A field without a name of a span in front of it may be in any record.
      let directive := { target, inSpan := !name.isEmpty, level := .trace }
      withField whole directive (stop + 1) rest

/-- A directive that is a level or a target alone. -/
def ofWord (cs : List Char) : LogDirective :=
  match LogLevel.parse? cs with
  | some level => { target := none, level }
  | none => { target := some (String.ofList cs), level := .trace }

/-- The directive that a text writes. -/
def parse (whole : List Char) : Except LogFilterError LogDirective :=
  let endsTarget (c : Char) : Bool := c = '=' || c = '['
  match Unicode.trim whole with
  | [] => .error .directive
  | '[' :: rest => withSpan whole none 1 rest
  | c :: rest =>
    if startsTarget c then
      let stop := size ((c :: rest).takeWhile (!endsTarget ·))
      match (c :: rest).dropWhile (!endsTarget ·) with
      | [] => .ok (ofWord whole)
      | mark :: rest => do
        let target ← String.ofList <$> cut whole 0 stop
        if mark = '[' then withSpan whole target (stop + 1) rest
        else withLevel whole { target, level := .trace } (stop + 1)
    else .error .directive

end LogDirective

end SandboxRpc
