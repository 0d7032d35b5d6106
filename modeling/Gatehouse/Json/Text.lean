import Gatehouse.Json.Cursor

/-!
# Strings of a document

A string is read behind its opening quote. When its value is wanted, code units that are written
as escapes must form characters; a string that is skipped only has to keep the grammar.

## Main definitions

* `Json.readText` : the value of a string.
* `Json.skipText` : the cursor behind a string.
-/

namespace Gatehouse.Json

/-- The character of an escape by a single letter. -/
def simpleEscape? (c : Char) : Option Char :=
  if c = '"' then some '"'
  else if c = '\\' then some '\\'
  else if c = '/' then some '/'
  else if c = 'b' then some '\x08'
  else if c = 'f' then some '\x0c'
  else if c = 'n' then some '\n'
  else if c = 'r' then some '\r'
  else if c = 't' then some '\t'
  else none

/-- Reads the four hexadecimal digits of a code unit. -/
def readUnit (k : Cursor) : Except Error (Nat × Cursor) :=
  match k.rest with
  | a :: b :: c :: d :: rest =>
    match Numeral.hexDigit? a, Numeral.hexDigit? b, Numeral.hexDigit? c, Numeral.hexDigit? d with
    | some a, some b, some c, some d =>
      .ok (a * 4096 + b * 256 + c * 16 + d, ⟨rest, ⟨k.mark.line, k.mark.column + 4⟩⟩)
    | _, _, _, _ => .error ⟨.invalidEscape, k.mark.advance 4 k.rest⟩
  | rest =>
    if (Utf8.encode rest).length < 4 then
      .error ⟨.eofInString, k.mark.advance 16 rest⟩
    else .error ⟨.invalidEscape, k.mark.advance 4 rest⟩

/-- Whether a code unit is the first of a pair. -/
def isLead (n : Nat) : Bool := 0xD800 ≤ n && n ≤ 0xDBFF

/-- Whether a code unit is the second of a pair. -/
def isTrail (n : Nat) : Bool := 0xDC00 ≤ n && n ≤ 0xDFFF

/-- Reads the character `c`, which the second escape of a pair needs. -/
def readPairChar (k : Cursor) (c : Char) : Except Error Cursor :=
  match k.rest with
  | [] => k.fail .eofInString
  | d :: _ =>
    if c = d then .ok k.advance
    else .error ⟨.unexpectedEndOfHexEscape, k.mark.advance 1 k.rest⟩

/-- Reads the character of an escape by code units, behind the letter `u`. -/
def readPoint (k : Cursor) : Except Error (Char × Cursor) :=
  match readUnit k with
  | .error e => .error e
  | .ok (n, k) =>
    if isTrail n then k.fail .loneSurrogate
    else if isLead n then
      match (readPairChar k '\\').bind (readPairChar · 'u') with
      | .error e => .error e
      | .ok k =>
        match readUnit k with
        | .error e => .error e
        | .ok (m, k) =>
          if isTrail m then
            .ok (Char.ofNat (0x10000 + (n - 0xD800) * 1024 + (m - 0xDC00)), k)
          else k.fail .loneSurrogate
    else .ok (Char.ofNat n, k)

/-- Reads the character of an escape, behind the backslash. -/
def readEscape (k : Cursor) : Except Error (Char × Cursor) :=
  match k.next? with
  | none => k.fail .eofInString
  | some (c, k) =>
    if c = 'u' then readPoint k
    else
      match simpleEscape? c with
      | some d => .ok (d, k)
      | none => k.fail .invalidEscape

/-- Reads the characters of a string up to its closing quote, putting them in front of `acc` in
reverse. -/
def readChars : (fuel : Nat) → (acc : List Char) → Reader (List Char)
  | 0, _, k => k.fail .eofInString
  | fuel + 1, acc, k =>
    match k.next? with
    | none => k.fail .eofInString
    | some (c, after) =>
      if c = '"' then .ok (acc.reverse, after)
      else if c = '\\' then
        match readEscape after with
        | .error e => .error e
        | .ok (d, k) => readChars fuel (d :: acc) k
      else if c.toNat < 0x20 then after.fail .controlInString
      else readChars fuel (c :: acc) after

/-- The value of a string, behind its opening quote. -/
def readText : Reader String := fun k =>
  (readChars (k.rest.length + 1) [] k).map fun (cs, k) => (String.ofList cs, k)

/-- Skips an escape, behind the backslash. -/
def skipEscape (k : Cursor) : Except Error Cursor :=
  match k.next? with
  | none => k.fail .eofInString
  | some (c, k) =>
    if c = 'u' then (readUnit k).map (·.2)
    else if (simpleEscape? c).isSome then .ok k
    else k.fail .invalidEscape

/-- Skips the characters of a string up to its closing quote. -/
def skipChars : (fuel : Nat) → Cursor → Except Error Cursor
  | 0, k => k.fail .eofInString
  | fuel + 1, k =>
    match k.next? with
    | none => k.fail .eofInString
    | some (c, after) =>
      if c = '"' then .ok after
      else if c = '\\' then (skipEscape after).bind (skipChars fuel)
      else if c.toNat < 0x20 then k.fail .controlInString
      else skipChars fuel after

/-- The cursor behind a string, from behind its opening quote on. -/
def skipText (k : Cursor) : Except Error Cursor := skipChars (k.rest.length + 1) k

end Gatehouse.Json
