import Gatehouse.Text.Utf8
import Gatehouse.Text.Numeral

/-!
# Percent-encoding

Characters that may not stand in a part of a URL are written as `%` and two hexadecimal digits
for each byte of their UTF-8 form. Which ASCII characters that are depends on the part; controls
and characters beyond ASCII are always encoded.

## Main definitions

* `Percent.inControls`, `Percent.inFragment`, `Percent.inQuery`, `Percent.inSpecialQuery`,
  `Percent.inPath`, `Percent.inUserinfo` : the characters that each part encodes.
* `Percent.encode` : a text with the characters of a class encoded.
* `Percent.decode` : bytes with the encoded bytes put back.
-/

namespace Gatehouse.Percent

/-- Controls and all characters beyond ASCII. -/
def inControls (c : Char) : Bool := c.toNat < 0x20 || 0x7F ≤ c.toNat

/-- The characters encoded in a fragment. -/
def inFragment (c : Char) : Bool :=
  inControls c || " \"<>`".toList.contains c

/-- The characters encoded in a query. -/
def inQuery (c : Char) : Bool :=
  inControls c || " \"#<>".toList.contains c

/-- The characters encoded in the query of a special scheme. -/
def inSpecialQuery (c : Char) : Bool := inQuery c || c == '\''

/-- The characters encoded in a path. -/
def inPath (c : Char) : Bool :=
  inFragment c || c == '#' || c == '?' || c == '\x7b' || c == '\x7d'

/-- The characters encoded in a user name or password. -/
def inUserinfo (c : Char) : Bool :=
  inPath c || "/:;=@[\\]^|".toList.contains c

/-- One byte as `%` and two digits. -/
def encodeByte (b : UInt8) : List Char :=
  ['%', Numeral.hexUpper (b.toNat / 16), Numeral.hexUpper b.toNat]

/-- One character, encoded if the class has it. -/
def encodeChar (inSet : Char → Bool) (c : Char) : List Char :=
  if inSet c then (Utf8.encodeChar c).flatMap encodeByte else [c]

/-- A text with the characters of the class encoded. -/
def encode (inSet : Char → Bool) (cs : List Char) : List Char := cs.flatMap (encodeChar inSet)

/-- The value of two bytes that are hexadecimal digits. -/
def hexPair? (x y : UInt8) : Option UInt8 :=
  match Numeral.hexDigit? (Char.ofNat x.toNat), Numeral.hexDigit? (Char.ofNat y.toNat) with
  | some hi, some lo => some (UInt8.ofNat (hi * 16 + lo))
  | _, _ => none

/-- Bytes with each `%` and two hexadecimal digits replaced by the byte they denote. -/
def decode : Bytes → Bytes
  | [] => []
  | b :: x :: y :: rest =>
    match (if b = 0x25 then hexPair? x y else none) with
    | some v => v :: decode rest
    | none => b :: decode (x :: y :: rest)
  | b :: rest => b :: decode rest

end Gatehouse.Percent
