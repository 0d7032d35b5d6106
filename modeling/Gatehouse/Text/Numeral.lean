/-!
# Decimal numerals

Unsigned numbers are written in decimal. Reading accepts an optional `+` and then one or more
ASCII digits, leading zeros included, and stops at the first character that makes the text no
number or the number too large; which of the two comes first from the left is the answer.

## Main definitions

* `Numeral.Fault` : why a text is no number of the wanted range, with its wording.
* `Numeral.read` : the number of a text, below a bound.
* `Numeral.digits` : the decimal digits of a number.
-/

namespace Gatehouse.Numeral

/-- Why a text is no number of the wanted range. -/
inductive Fault where
  /-- There is no character at all. -/
  | empty
  /-- A character is no digit, or there is only a sign. -/
  | invalidDigit
  /-- The digits read so far denote a number beyond the range. -/
  | tooLarge
  deriving DecidableEq, Repr

/-- The wording of a fault. -/
def Fault.message : Fault → String
  | .empty => "cannot parse integer from empty string"
  | .invalidDigit => "invalid digit found in string"
  | .tooLarge => "number too large to fit in target type"

/-- The value of an ASCII digit. -/
def digit? (c : Char) : Option Nat :=
  if '0' ≤ c ∧ c ≤ '9' then some (c.toNat - 48) else none

/-- Reads the remaining digits on top of the value `acc`, keeping the value below `bound`. -/
def readDigits (bound : Nat) : (acc : Nat) → List Char → Except Fault Nat
  | acc, [] => .ok acc
  | acc, c :: rest =>
    match digit? c with
    | none => .error .invalidDigit
    | some d => if acc * 10 + d < bound then readDigits bound (acc * 10 + d) rest
      else .error .tooLarge

/-- The number below `bound` that a text denotes. -/
def read (bound : Nat) : List Char → Except Fault Nat
  | [] => .error .empty
  | ['+'] => .error .invalidDigit
  | '+' :: rest => readDigits bound 0 rest
  | cs => readDigits bound 0 cs

/-- A port number: a numeral below 65536. -/
def readPort (cs : List Char) : Except Fault Nat := read 65536 cs

/-- A word of 64 bits: a numeral below 2^64. -/
def readWord (cs : List Char) : Except Fault Nat := read (Nat.pow 2 64) cs

/-- The decimal digits of a number, without leading zeros. -/
def digits (n : Nat) : List Char := Nat.toDigits 10 n

/-- The value of a hexadecimal digit of either case. -/
def hexDigit? (c : Char) : Option Nat :=
  if '0' ≤ c ∧ c ≤ '9' then some (c.toNat - 48)
  else if 'a' ≤ c ∧ c ≤ 'f' then some (c.toNat - 87)
  else if 'A' ≤ c ∧ c ≤ 'F' then some (c.toNat - 55)
  else none

/-- The hexadecimal digits of a number in lower case, without leading zeros. -/
def hexDigits (n : Nat) : List Char := Nat.toDigits 16 n

/-- The upper-case hexadecimal digit of a value below 16. -/
def hexUpper (n : Nat) : Char := (Nat.digitChar (n % 16)).toUpper

end Gatehouse.Numeral
