/-!
# Numerals

Digits and the numbers that they write, in any base of at most sixteen.
-/

namespace SandboxRpc.Numeral

/-- The value of a digit; the letters of either case come after the ten decimal digits. -/
def digitValue? (c : Char) : Option Nat :=
  if '0' ≤ c ∧ c ≤ '9' then some (c.toNat - '0'.toNat)
  else if 'a' ≤ c ∧ c ≤ 'f' then some (c.toNat - 'a'.toNat + 10)
  else if 'A' ≤ c ∧ c ≤ 'F' then some (c.toNat - 'A'.toNat + 10)
  else none

/-- Whether a character is a digit of a base. -/
def isDigit (base : Nat) (c : Char) : Bool :=
  (digitValue? c).any (· < base)

/-- The number that digits write. -/
def value (base : Nat) (digits : List Char) : Nat :=
  digits.foldl (fun number c => base * number + (digitValue? c).getD 0) 0

/-- The number that a run of characters writes, if they are all digits. -/
def value? (base : Nat) (digits : List Char) : Option Nat :=
  if digits.all (isDigit base) then some (value base digits) else none

end SandboxRpc.Numeral
