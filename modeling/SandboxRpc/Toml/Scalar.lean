import SandboxRpc.Numeral

/-!
# Bare TOML values

Numbers, booleans, dates and times are written without quotes. `Scalar.ofBare?` tells what a run of
characters writes, if it writes anything.

Settings are strings, integers and booleans, so of floats, dates and times only the kind is kept;
they still have to be well formed.
-/

namespace SandboxRpc.Toml

inductive Scalar where
  | string (text : String)
  | integer (value : Int)
  | boolean (value : Bool)
  | float
  | dateTime
deriving DecidableEq, Repr, Inhabited

/-! ## Digits -/

/-- The digits of a run in which single underscores may stand between two digits. -/
def grouped? (base : Nat) : List Char → Option (List Char)
  | [] => none
  | [c] => if Numeral.isDigit base c then some [c] else none
  | c :: '_' :: rest => if Numeral.isDigit base c then (c :: ·) <$> grouped? base rest else none
  | c :: rest => if Numeral.isDigit base c then (c :: ·) <$> grouped? base rest else none

/-- A sign, if there is one: whether it is a minus, and what follows. -/
def splitSign : List Char → Bool × List Char
  | '-' :: rest => (true, rest)
  | '+' :: rest => (false, rest)
  | cs => (false, cs)

/-- The digits of a decimal number without leading zeros. -/
def decimal? (cs : List Char) : Option (List Char) := do
  let digits ← grouped? 10 cs
  if digits.head? = some '0' ∧ digits.length ≠ 1 then none else some digits

/-! ## Integers -/

/-- An integer that fits 64 bits. -/
def boundedInteger? (value : Int) : Option Int :=
  if -0x8000000000000000 ≤ value ∧ value ≤ 0x7fffffffffffffff then some value else none

/-- The integer that a run of characters writes. -/
def integer? (cs : List Char) : Option Int := do
  match cs with
  | '0' :: 'x' :: rest => boundedInteger? (Numeral.value 16 (← grouped? 16 rest))
  | '0' :: 'o' :: rest => boundedInteger? (Numeral.value 8 (← grouped? 8 rest))
  | '0' :: 'b' :: rest => boundedInteger? (Numeral.value 2 (← grouped? 2 rest))
  | _ =>
    let (negative, rest) := splitSign cs
    let magnitude := Numeral.value 10 (← decimal? rest)
    boundedInteger? (if negative then -(magnitude : Int) else magnitude)

/-! ## Floats -/

/-- A decimal fraction: `mantissa · 10 ^ exponent`. -/
structure Decimal where
  mantissa : Nat
  exponent : Int
deriving DecidableEq, Repr

/-- The least magnitude that rounds to infinity: half a step above the greatest float. -/
def overflowBound : Nat := 1 <<< 1024 - 1 <<< 970

/-- Whether a decimal fraction is too large for a float of 64 bits. The number of digits settles it
for all but those of a size near the bound, which has 309. -/
def Decimal.overflows (value : Decimal) : Bool :=
  let size := (Nat.toDigits 10 value.mantissa).length + value.exponent
  if value.mantissa = 0 ∨ size < 300 then false
  else if 320 < size then true
  else if 0 ≤ value.exponent then overflowBound ≤ value.mantissa * Nat.pow 10 value.exponent.toNat
  else overflowBound * Nat.pow 10 (-value.exponent).toNat ≤ value.mantissa

/-- The exponent after its letter; leading zeros are no harm. -/
def exponent? (cs : List Char) : Option Int := do
  let (negative, rest) := splitSign cs
  let magnitude := Numeral.value 10 (← grouped? 10 rest)
  some (if negative then -(magnitude : Int) else magnitude)

/-- Cuts a text at the first character of a kind, which is dropped; without one there is no
second part. -/
def cutAt (stop : Char → Bool) (cs : List Char) : List Char × Option (List Char) :=
  match cs.dropWhile (!stop ·) with
  | [] => (cs, none)
  | _ :: after => (cs.takeWhile (!stop ·), some after)

/-- The decimal fraction that an unsigned run of characters writes. It has a fraction or an exponent
or both. -/
def decimalFraction? (cs : List Char) : Option Decimal := do
  let (significand, exponentPart) := cutAt (fun c => c = 'e' || c = 'E') cs
  let (whole, fractionPart) := cutAt (· = '.') significand
  let wholeDigits ← decimal? whole
  let fractionDigits ← fractionPart.elim (some []) (grouped? 10)
  let exponent ← exponentPart.elim (some 0) exponent?
  if fractionPart.isNone ∧ exponentPart.isNone then none
  else some ⟨Numeral.value 10 (wholeDigits ++ fractionDigits), exponent - fractionDigits.length⟩

/-- Whether a run of characters writes a float. One that is too large is refused, but not one
that is too small below zero. -/
def isFloat (cs : List Char) : Bool :=
  let (negative, rest) := splitSign cs
  if rest = ['i', 'n', 'f'] ∨ rest = ['n', 'a', 'n'] then true
  else (decimalFraction? rest).any fun value => negative || !value.overflows

/-! ## Dates and times -/

/-- The number that exactly `count` digits write, and what follows them. -/
def fixedNumber? (count : Nat) (cs : List Char) : Option (Nat × List Char) :=
  let digits := cs.take count
  if digits.length = count ∧ digits.all (Numeral.isDigit 10) then
    some (Numeral.value 10 digits, cs.drop count)
  else none

/-- What follows a given character. -/
def after? (c : Char) : List Char → Option (List Char)
  | d :: rest => if c = d then some rest else none
  | [] => none

/-- The number of days in a month. -/
def daysInMonth (year month : Nat) : Nat :=
  if month = 2 then
    if year % 4 = 0 ∧ (year % 100 ≠ 0 ∨ year % 400 = 0) then 29 else 28
  else if month ∈ [4, 6, 9, 11] then 30
  else 31

/-- What follows a date. -/
def afterDate? (cs : List Char) : Option (List Char) := do
  let (year, rest) ← fixedNumber? 4 cs
  let (month, rest) ← fixedNumber? 2 (← after? '-' rest)
  let (day, rest) ← fixedNumber? 2 (← after? '-' rest)
  if 1 ≤ month ∧ month ≤ 12 ∧ 1 ≤ day ∧ day ≤ daysInMonth year month then some rest else none

/-- What follows the fraction of a second, if there is one. -/
def afterFraction? : List Char → Option (List Char)
  | '.' :: c :: rest =>
    if Numeral.isDigit 10 c then some (rest.dropWhile (Numeral.isDigit 10)) else none
  | '.' :: [] => none
  | cs => some cs

/-- What follows hours and minutes. -/
def afterMinutes? (cs : List Char) : Option (List Char) := do
  let (hour, rest) ← fixedNumber? 2 cs
  let (minute, rest) ← fixedNumber? 2 (← after? ':' rest)
  if hour ≤ 23 ∧ minute ≤ 59 then some rest else none

/-- What follows a time of day; the sixtieth second may be a leap second. -/
def afterTime? (cs : List Char) : Option (List Char) := do
  let rest ← after? ':' (← afterMinutes? cs)
  let (second, rest) ← fixedNumber? 2 rest
  if second ≤ 60 then afterFraction? rest else none

/-- Whether a run of characters writes an offset from universal time, or nothing. -/
def isOffset : List Char → Bool
  | [] => true
  | ['Z'] => true
  | ['z'] => true
  | c :: rest => (c = '+' || c = '-') && afterMinutes? rest = some []

/-- Whether a run of characters writes a time, with or without an offset. -/
def isOffsetTime (cs : List Char) : Bool :=
  (afterTime? cs).any isOffset

/-- Whether a run of characters writes a date and nothing else. -/
def isDate (cs : List Char) : Bool :=
  afterDate? cs = some []

/-- Whether a run of characters writes a date, a time, or both with a letter between them. -/
def isDateTime (cs : List Char) : Bool :=
  match afterDate? cs with
  | some [] => true
  | some (c :: rest) => (c = 'T' || c = 't') && isOffsetTime rest
  | none => afterTime? cs = some []

/-! ## All together -/

/-- Whether a character may stand in a bare value. -/
def isBareCharacter (c : Char) : Bool :=
  c.isAlphanum || c = '+' || c = '-' || c = '_' || c = '.' || c = ':'

/-- What a run of characters writes. -/
def Scalar.ofBare? (cs : List Char) : Option Scalar :=
  if cs = ['t', 'r', 'u', 'e'] then some (.boolean true)
  else if cs = ['f', 'a', 'l', 's', 'e'] then some (.boolean false)
  else if isDateTime cs then some .dateTime
  else if isFloat cs then some .float
  else (integer? cs).map .integer

end SandboxRpc.Toml
