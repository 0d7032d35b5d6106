import Gatehouse.Url.Domain.Direction
import Gatehouse.Url.Domain.MappingTable
import Gatehouse.Url.Domain.Punycode
import Gatehouse.Text.Normalization

/-!
# Domains

A domain is brought into canonical form: characters are mapped (letters to lower case, wide forms
to plain ones, ideographic full stops to points), the result is composed, and each label with
characters beyond ASCII is written in Punycode behind `xn--`. A label that already starts that
way must be what this process would write.

## Main definitions

* `Domain.mapChar?` : what one character is mapped to, or nothing if it may not occur.
* `Domain.toAscii?` : the canonical form of a domain.
-/

namespace Gatehouse.Domain

open Normalization (hexValue)

/-- What happens to the characters of a run. -/
inductive Mapping where
  | refuse
  | ignore
  /-- Every `stride`-th character from the first on is mapped to consecutive steps from `start`. -/
  | shift (stride start : Nat)
  | replace (text : List Char)

/-- A row of the mapping: the first code point, the number of characters, and their mapping. -/
structure Row where
  first : Nat
  count : Nat
  mapping : Mapping

/-- The row whose left side is `left` and whose right side maps to `target`. -/
def Row.ofSides (left target : List Char) : Row :=
  let points := (Text.splitOn '.' target).map hexValue
  match Text.cutFirst '+' left, Text.cutFirst '*' left, points with
  | some (p, n), _, [q] => ⟨hexValue p, hexValue n, .shift 1 q⟩
  | _, some (p, n), [q] => ⟨hexValue p, hexValue n, .shift 2 q⟩
  | _, _, points => ⟨hexValue left, 1, .replace (points.map Char.ofNat)⟩

/-- The row that a field of the table denotes. -/
def Row.ofField (field : List Char) : Row :=
  match Text.cutFirst '=' field with
  | some (left, target) => Row.ofSides left target
  | none =>
    match Text.cutFirst '!' field, Text.cutFirst '~' field with
    | some (p, n), _ => ⟨hexValue p, hexValue n, .refuse⟩
    | none, some (p, n) => ⟨hexValue p, hexValue n, .ignore⟩
    | none, none => ⟨0, 0, .refuse⟩

/-- All rows of the mapping. -/
def rows : List Row := (Normalization.rowsOf mappingRows).map Row.ofField

/-- Whether a row maps a code point. -/
def Row.has (r : Row) (n : Nat) : Bool :=
  let stride := match r.mapping with
    | .shift stride _ => stride
    | _ => 1
  r.first ≤ n && n < r.first + r.count * stride && (n - r.first) % stride == 0

/-- What a row maps one of its code points to. -/
def Row.apply (r : Row) (n : Nat) : Option (List Char) :=
  match r.mapping with
  | .refuse => none
  | .ignore => some []
  | .shift _ start => some [Char.ofNat (start + (n - r.first))]
  | .replace cs => some cs

/-- What a character is mapped to. ASCII letters go to lower case, and all other ASCII characters
stand for themselves. -/
def mapChar? (c : Char) : Option (List Char) :=
  if c.toNat < 0x80 then some [c.toLower]
  else
    match rows.find? (·.has c.toNat) with
    | some row => row.apply c.toNat
    | none => some [c]

/-- The text with all characters mapped. -/
def mapText? : List Char → Option (List Char)
  | [] => some []
  | c :: rest => (mapChar? c).bind fun cs => (mapText? rest).map (cs ++ ·)

/-- The ASCII characters that no domain contains. -/
def isForbidden (c : Char) : Bool :=
  c.toNat ≤ 0x20 || c.toNat == 0x7F || "%#/:<>?@[\\]^|".toList.contains c

/-- Whether a label of mapped characters may occur: it starts with no combining mark, and its
joiners stand where they may. -/
def isValidLabel (label : List Char) : Bool :=
  (match label with
    | [] => true
    | c :: _ => !Normalization.isMark c) && joinersAllowed [] label

/-- Whether a label consists of characters that are their own mapping, in composed form, and is
not plain ASCII. -/
def isCanonicalLabel (label : List Char) : Bool :=
  label.any (0x80 ≤ ·.toNat) && mapText? label == some label
    && Normalization.compose label == label && isValidLabel label

/-- A label in both of its forms. -/
structure Label where
  /-- The form that is read. -/
  shown : List Char
  /-- The form in ASCII. -/
  ascii : List Char

/-- The label that a mapped text denotes. -/
def Label.ofMapped? (text : List Char) : Option Label :=
  match Text.dropPrefix? "xn--".toList text with
  | some written =>
    match Punycode.decode? written with
    | some inner =>
      if isCanonicalLabel inner && Punycode.encode inner == written then some ⟨inner, text⟩
      else none
    | none => none
  | none =>
    if text.all (·.toNat < 0x80) then some ⟨text, text⟩
    else if isValidLabel text then some ⟨text, "xn--".toList ++ Punycode.encode text⟩
    else none

/-- The labels that mapped texts denote. -/
def labels? : List (List Char) → Option (List Label)
  | [] => some []
  | text :: texts =>
    (Label.ofMapped? text).bind fun label => (labels? texts).map (label :: ·)

/-- The canonical form of a domain, if it is one. It may be empty. -/
def toAscii? (domain : List Char) : Option (List Char) :=
  (mapText? domain).bind fun mapped =>
    (labels? (Text.splitOn '.' (Normalization.compose mapped))).bind fun labels =>
      let text := Text.joinWith ['.'] (labels.map Label.ascii)
      if text.any isForbidden || !directionsAllowed (labels.map Label.shown) then none
      else some text

end Gatehouse.Domain
