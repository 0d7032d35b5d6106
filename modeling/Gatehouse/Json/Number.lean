import Gatehouse.Json.Cursor
import Gatehouse.Decimal.Shortest

/-!
# Numbers of a document

A number is read only to say what was met in the place of something else. Whole numbers of 64
bits keep their digits; all others are rounded to binary floating point, by one rounded product
or quotient with a power of ten at a time.

## Main definitions

* `Json.readNumber` : what a number is met as.
* `Json.skipNumber` : the cursor behind a number.
-/

namespace Gatehouse.Json

/-- Whether a character is a digit. -/
def isDigit (c : Char) : Bool := (Numeral.digit? c).isSome

/-- Reads digits into a word of 64 bits, as far as they fit: the word, how many were taken, and
the digits left over. -/
def takeWord (acc taken : Nat) : List Char → Nat × Nat × List Char
  | [] => (acc, taken, [])
  | c :: rest =>
    let next := acc * 10 + (Numeral.digit? c).getD 0
    if next < Nat.pow 2 64 then takeWord next (taken + 1) rest else (acc, taken, c :: rest)

/-- The number `significand * 10^exponent`, rounded at each step, or none if it is beyond the
range. Powers of ten up to 308 are used at once. -/
def scaled? : (fuel : Nat) → (f : Binary64) → (exponent : Int) → Option Binary64
  | 0, f, _ => some f
  | fuel + 1, f, exponent =>
    if exponent.natAbs ≤ 308 then
      if 0 ≤ exponent then f.mul? (Binary64.powerOfTen exponent.toNat)
      else f.div? (Binary64.powerOfTen exponent.natAbs)
    else if f.significand = 0 then some f
    else if 0 ≤ exponent then none
    else (f.div? (Binary64.powerOfTen 308)).bind fun f => scaled? fuel f (exponent + 308)

/-- What a number with a significand and an exponent is met as. -/
def floatFound (k : Cursor) (negative : Bool) (significand : Nat) (exponent : Int) :
    Except Error (Found × Cursor) :=
  let sign := if negative then ['-'] else []
  match (Binary64.round? significand 1).bind fun f => scaled? 8 f (max exponent (-2000)) with
  | some f => .ok (.float (String.ofList (sign ++ Shortest.text f)), k)
  | none => k.fail .numberOutOfRange

/-- The value of the digits of an exponent as far as it is below 2^31, and the number of digits
from the first one on with which it is not. -/
def exponentValue : (acc : Nat) → List Char → Nat × Nat
  | acc, [] => (acc, 0)
  | acc, c :: rest =>
    let next := acc * 10 + (Numeral.digit? c).getD 0
    if next < Nat.pow 2 31 then exponentValue next rest else (acc, rest.length + 1)

/-- Reads an exponent behind its letter. -/
def readExponent (k : Cursor) (negative : Bool) (significand : Nat) (start : Int) :
    Except Error (Found × Cursor) :=
  let (down, k) := match k.peek? with
    | some '+' => (false, k.advance)
    | some '-' => (true, k.advance)
    | _ => (false, k)
  match k.next? with
  | none => k.fail .eofInValue
  | some (c, after) =>
    if isDigit c then
      let (digits, k) := k.span isDigit
      let (value, beyond) := exponentValue 0 digits
      if beyond = 0 then
        floatFound k negative significand (if down then start - value else start + value)
      else if significand = 0 ∨ down then floatFound k negative 0 0
      else .error ⟨.numberOutOfRange, ⟨k.mark.line, k.mark.column - (beyond - 1)⟩⟩
    else after.fail .invalidNumber

/-- Reads what may follow the digits of a significand: an exponent, or nothing. -/
def readScale (k : Cursor) (negative : Bool) (significand : Nat) (exponent : Int) :
    Except Error (Found × Cursor) :=
  match k.peek? with
  | some 'e' | some 'E' => readExponent k.advance negative significand exponent
  | _ => floatFound k negative significand exponent

/-- Reads the digits behind a point. -/
def readFraction (k : Cursor) (negative : Bool) (significand : Nat) (exponent : Int) :
    Except Error (Found × Cursor) :=
  let (digits, after) := k.span isDigit
  if digits = [] then
    match k.rest with
    | [] => k.fail .eofInValue
    | _ :: _ => k.failNext .invalidNumber
  else
    let (word, taken, _) := takeWord significand 0 digits
    readScale after negative word (exponent - taken)

/-- What the digits of a number are met as, its sign having been read. -/
def readNumber (negative : Bool) : Reader Found := fun k =>
  match k.next? with
  | none => k.fail .eofInValue
  | some (c, after) =>
    if !isDigit c then after.fail .invalidNumber
    else if c = '0' ∧ (after.peek?.any isDigit) then after.failNext .invalidNumber
    else
      let (digits, after) := k.span isDigit
      let (word, _, left) := takeWord 0 0 digits
      let exponent : Int := left.length
      match after.peek? with
      | some '.' => readFraction after.advance negative word exponent
      | some 'e' | some 'E' => readExponent after.advance negative word exponent
      | _ =>
        if left ≠ [] then floatFound after negative word exponent
        else if negative = false then .ok (.integer (String.ofList (Numeral.digits word)), after)
        else if 0 < word ∧ word ≤ Nat.pow 2 63 then
          .ok (.integer (String.ofList ('-' :: Numeral.digits word)), after)
        else floatFound after negative word 0

/-- Skips an exponent behind its letter. -/
def skipExponent (k : Cursor) : Except Error Cursor :=
  let k := match k.peek? with
    | some '+' | some '-' => k.advance
    | _ => k
  match k.next? with
  | none => k.fail .invalidNumber
  | some (c, after) => if isDigit c then .ok (k.span isDigit).2 else after.fail .invalidNumber

/-- Skips an exponent, if there is one. -/
def skipScale (k : Cursor) : Except Error Cursor :=
  match k.peek? with
  | some 'e' | some 'E' => skipExponent k.advance
  | _ => .ok k

/-- Skips the digits of a number, its sign having been read. -/
def skipNumber (k : Cursor) : Except Error Cursor :=
  match k.next? with
  | none => k.fail .invalidNumber
  | some (c, after) =>
    if !isDigit c then after.fail .invalidNumber
    else if c = '0' ∧ (after.peek?.any isDigit) then after.failNext .invalidNumber
    else
      let after := (k.span isDigit).2
      match after.peek? with
      | some '.' =>
        let point := after.advance
        let (digits, after) := point.span isDigit
        if digits = [] then point.failNext .invalidNumber else skipScale after
      | _ => skipScale after

end Gatehouse.Json
