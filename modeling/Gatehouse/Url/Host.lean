import Gatehouse.Url.Basic
import Gatehouse.Url.Percent
import Gatehouse.Url.Domain

/-!
# Reading hosts

The host of a special scheme is an address of version 6 in brackets, or text that is
percent-decoded and brought into the canonical form of a domain; if its last label is a number,
it must be an address of version 4, of which the parts may be octal or hexadecimal and the last
part may stand for several. The host of a general scheme is an address in brackets or any text
without a few delimiters.

## Main definitions

* `UrlError` : why a text is no URL, with its wording.
* `Host.parseSpecial`, `Host.parseGeneral` : the host of either class of schemes.
-/

namespace Gatehouse

/-- Why a text is no URL. -/
inductive UrlError where
  | emptyHost
  | invalidDomain
  | invalidPort
  | invalidIpv4
  | invalidIpv6
  | invalidHostCharacter
  | relativeWithoutBase
  deriving DecidableEq, Repr

/-- The wording of the error. -/
def UrlError.message : UrlError → String
  | .emptyHost => "empty host"
  | .invalidDomain => "invalid international domain name"
  | .invalidPort => "invalid port number"
  | .invalidIpv4 => "invalid IPv4 address"
  | .invalidIpv6 => "invalid IPv6 address"
  | .invalidHostCharacter => "invalid domain character"
  | .relativeWithoutBase => "relative URL without a base"

/-! ### Addresses of version 4 -/

namespace Ipv4

/-- The base of a number, and its digits: hexadecimal behind `0x`, octal behind `0`. -/
def numberBase : List Char → Nat × List Char
  | '0' :: 'x' :: rest => (16, rest)
  | '0' :: 'X' :: rest => (16, rest)
  | '0' :: c :: rest => (8, c :: rest)
  | cs => (10, cs)

/-- The number that a part of an address denotes; no digits behind a base mean 0. -/
def number? (part : List Char) : Option Nat :=
  if part = [] then none
  else
    let (base, digits) := numberBase part
    if digits.all fun c => (Numeral.hexDigit? c).any (· < base) then
      some (digits.foldl (fun acc c => acc * base + (Numeral.hexDigit? c).getD 0) 0)
    else none

/-- The numbers of all parts. -/
def numbers? : List (List Char) → Option (List Nat)
  | [] => some []
  | part :: parts => (number? part).bind fun n => (numbers? parts).map (n :: ·)

/-- The value of an address from its numbers: each but the last is a byte, and the last one
fills the bytes that are left. -/
def valueOf? (position : Nat) : List Nat → Option Nat
  | [] => none
  | [last] => if last < Nat.pow 256 (4 - position) then some last else none
  | n :: rest =>
    if n < 256 ∧ position < 3 then
      (valueOf? (position + 1) rest).map (n * Nat.pow 256 (3 - position) + ·)
    else none

/-- The parts of a dotted text, without an empty one at the end. -/
def partsOf (cs : List Char) : List (List Char) :=
  let parts := Text.splitOn '.' cs
  if parts.getLast? = some [] then parts.dropLast else parts

/-- Whether the last label of a domain, not counting an empty one, is a number. -/
def endsInNumber (domain : List Char) : Bool :=
  match (partsOf domain).getLast? with
  | none => false
  | some [] => false
  | some last =>
    last.all (fun c => (Numeral.digit? c).isSome) || (number? last).isSome

/-- The address that a domain ending in a number denotes. -/
def ofDomain? (domain : List Char) : Option Ipv4 :=
  ((numbers? (partsOf domain)).bind (valueOf? 0)).map ofNat

end Ipv4

/-! ### Addresses of version 6 -/

namespace Ipv6

/-- Reads up to four hexadecimal digits: their number, their value and the rest. -/
def hexPiece (cs : List Char) : Nat × Nat × List Char :=
  let digits := (cs.take 4).takeWhile fun c => (Numeral.hexDigit? c).isSome
  (digits.length, digits.foldl (fun acc c => acc * 16 + (Numeral.hexDigit? c).getD 0) 0,
    cs.drop digits.length)

/-- Reads the groups of a bracketed address. `seen` holds the groups read, `gap` the number of
groups up to and including the zero that `::` stands for, and `room` the groups still missing. -/
def readPieces : (room : Nat) → (seen : List Nat) → (gap : Option Nat) → List Char →
    Option (List Nat × Option Nat)
  | _, seen, gap, [] => some (seen, gap)
  | 0, _, _, _ :: _ => none
  | room + 1, seen, gap, ':' :: rest =>
    if gap.isSome then none
    else readPieces room (seen ++ [0]) (some (seen.length + 1)) rest
  | room + 1, seen, gap, cs =>
    let (length, value, rest) := hexPiece cs
    match rest with
    | '.' :: _ =>
      if length = 0 ∨ room = 0 then none
      else (Ipv4.parse? cs).map fun x => (seen ++ x.groups, gap)
    | [':'] => none
    | ':' :: rest => if length = 0 then none else readPieces room (seen ++ [value]) gap rest
    | [] => some (seen ++ [value], gap)
    | _ :: _ => none

/-- The eight groups of an address of which `gap` groups stand before the zeros left out. -/
def fill? (seen : List Nat) (gap : Option Nat) : Option Ipv6 :=
  match gap with
  | none => ofGroups? seen
  | some gap =>
    ofGroups? (seen.take gap ++ List.replicate (8 - seen.length) 0 ++ seen.drop gap)

/-- The address that a text in the brackets of a URL denotes. -/
def ofBracketed? (cs : List Char) : Option Ipv6 :=
  let groups := match cs with
    | ':' :: ':' :: rest => readPieces 7 [0] (some 1) rest
    | ':' :: _ => none
    | cs => readPieces 8 [] none cs
  groups.bind fun (seen, gap) => fill? seen gap

end Ipv6

/-! ### Hosts -/

namespace Host

/-- The address of version 6 in a host that starts with a bracket. -/
def parseBracketed (inner : List Char) : Except UrlError Host :=
  match inner.getLast? with
  | some ']' =>
    match Ipv6.ofBracketed? inner.dropLast with
    | some x => .ok (.v6 x)
    | none => .error .invalidIpv6
  | _ => .error .invalidIpv6

/-- The host of a canonical domain: an address if it ends in a number. -/
def ofDomain (domain : List Char) : Except UrlError Host :=
  if domain = [] then .error .emptyHost
  else if Ipv4.endsInNumber domain then
    match Ipv4.ofDomain? domain with
    | some x => .ok (.v4 x)
    | none => .error .invalidIpv4
  else .ok (.name (String.ofList domain))

/-- The host of a special scheme. -/
def parseSpecial (cs : List Char) : Except UrlError Host :=
  match cs with
  | '[' :: inner => parseBracketed inner
  | cs =>
    match (Utf8.decode? (Percent.decode (Utf8.encode cs))).bind Domain.toAscii? with
    | some domain => ofDomain domain
    | none => .error .invalidDomain

/-- The characters that the host of a general scheme may not contain. -/
def isDelimiter (c : Char) : Bool :=
  c.toNat == 0 || "\t\n\r #/:<>?@[\\]^|".toList.contains c

/-- The host of a general scheme, which may be empty. -/
def parseGeneral (cs : List Char) : Except UrlError (Option Host) :=
  match cs with
  | [] => .ok none
  | '[' :: inner => (parseBracketed inner).map some
  | cs =>
    if cs.any isDelimiter then .error .invalidHostCharacter
    else .ok (some (.name (String.ofList (Percent.encode Percent.inControls cs))))

end Host

end Gatehouse
