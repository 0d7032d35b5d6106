import Gatehouse.Text.Numeral
import Gatehouse.Text.Split

/-!
# Internet addresses

Addresses of both versions, their texts, and the socket addresses built from them. An address of
version 6 is written in groups of hexadecimal digits, the first longest run of two or more zero
groups shortened to `::`; an address that stands for one of version 4 ends in dotted form when
it is written on its own, but not inside a URL.

## Main definitions

* `Ipv4`, `Ipv6`, `Ip` : the addresses.
* `Ipv4.text`, `Ipv6.groupsText`, `Ipv6.text`, `Ip.text` : their texts.
* `Ipv4.parse?`, `Ipv6.parse?`, `Ip.parse?` : strict readers; no leading zeros in version 4.
* `SocketAddress`, `SocketAddress.parse?` : an address with a port.
-/

namespace Gatehouse

/-- An address of version 4. -/
structure Ipv4 where
  a : UInt8
  b : UInt8
  c : UInt8
  d : UInt8
  deriving DecidableEq, Repr

/-- An address of version 6: eight groups of 16 bits. -/
structure Ipv6 where
  g0 : UInt16
  g1 : UInt16
  g2 : UInt16
  g3 : UInt16
  g4 : UInt16
  g5 : UInt16
  g6 : UInt16
  g7 : UInt16
  deriving DecidableEq, Repr

/-- An address of either version. -/
inductive Ip where
  | v4 (address : Ipv4)
  | v6 (address : Ipv6)
  deriving DecidableEq, Repr

/-! ### Texts -/

namespace Ipv4

/-- The address whose value as a 32-bit number is `n`. -/
def ofNat (n : Nat) : Ipv4 :=
  ⟨UInt8.ofNat (n / 16777216), UInt8.ofNat (n / 65536), UInt8.ofNat (n / 256), UInt8.ofNat n⟩

/-- Four decimal numbers with points between them. -/
def text (x : Ipv4) : List Char :=
  Text.joinWith ['.'] ([x.a, x.b, x.c, x.d].map fun n => Numeral.digits n.toNat)

end Ipv4

namespace Ipv6

/-- The eight groups, first to last. -/
def groups (x : Ipv6) : List Nat :=
  [x.g0, x.g1, x.g2, x.g3, x.g4, x.g5, x.g6, x.g7].map UInt16.toNat

/-- The address with the given eight groups. -/
def ofGroups? : List Nat → Option Ipv6
  | [g0, g1, g2, g3, g4, g5, g6, g7] =>
    some ⟨UInt16.ofNat g0, UInt16.ofNat g1, UInt16.ofNat g2, UInt16.ofNat g3,
      UInt16.ofNat g4, UInt16.ofNat g5, UInt16.ofNat g6, UInt16.ofNat g7⟩
  | _ => none

/-- The length of the run of zeros at the front of a list. -/
def leadingZeros (gs : List Nat) : Nat := (gs.takeWhile (· == 0)).length

/-- The start and length of the first longest run of zeros, counting positions from `start`. -/
def longestRun (start : Nat) : List Nat → Nat × Nat
  | [] => (start, 0)
  | g :: gs =>
    let here := leadingZeros (g :: gs)
    let later := longestRun (start + 1) gs
    if later.2 ≤ here then (start, here) else later

/-- Groups in hexadecimal with colons between them. -/
def joinGroups (gs : List Nat) : List Char :=
  Text.joinWith [':'] (gs.map Numeral.hexDigits)

/-- The groups, with the first longest run of at least two zeros shortened. -/
def groupsText (x : Ipv6) : List Char :=
  let (start, length) := longestRun 0 x.groups
  if 2 ≤ length then
    joinGroups (x.groups.take start) ++ [':', ':'] ++ joinGroups (x.groups.drop (start + length))
  else joinGroups x.groups

/-- The address of version 4 that an address `::ffff:a.b.c.d` stands for. -/
def mapped? (x : Ipv6) : Option Ipv4 :=
  match x.groups with
  | [0, 0, 0, 0, 0, 0xffff, high, low] => some (Ipv4.ofNat (high * 65536 + low))
  | _ => none

/-- The text of the address on its own. -/
def text (x : Ipv6) : List Char :=
  match x.mapped? with
  | some v4 => "::ffff:".toList ++ v4.text
  | none => x.groupsText

end Ipv6

/-- The text of an address on its own. -/
def Ip.text : Ip → List Char
  | .v4 x => x.text
  | .v6 x => x.text

/-! ### Readers -/

/-- Reads digits of the base as far as they go: at least one, at most `most` if that is given,
of a value below `bound`, and with a leading zero only if `zeros` allows it or it is alone. -/
def readNumber (base : Nat) (most : Option Nat) (zeros : Bool) (bound : Nat) (cs : List Char) :
    Option (Nat × List Char) :=
  let isDigit := fun c =>
    match Numeral.hexDigit? c with
    | some d => decide (d < base)
    | none => false
  let digits := cs.takeWhile isDigit
  let value := digits.foldl (fun acc c => acc * base + (Numeral.hexDigit? c).getD 0) 0
  if digits.length = 0 then none
  else if most.any (· < digits.length) then none
  else if zeros = false ∧ digits.head? = some '0' ∧ 1 < digits.length then none
  else if value < bound then some (value, cs.dropWhile isDigit)
  else none

/-- Reads the character `c`. -/
def readChar (c : Char) : List Char → Option (List Char)
  | [] => none
  | d :: rest => if c = d then some rest else none

namespace Ipv4

/-- Reads one decimal number of an address. -/
def readOctet (cs : List Char) : Option (UInt8 × List Char) :=
  (readNumber 10 (some 3) false 256 cs).map fun (n, rest) => (UInt8.ofNat n, rest)

/-- Reads an address at the front of a text. -/
def read (cs : List Char) : Option (Ipv4 × List Char) := do
  let (a, cs) ← readOctet cs
  let (b, cs) ← readOctet (← readChar '.' cs)
  let (c, cs) ← readOctet (← readChar '.' cs)
  let (d, cs) ← readOctet (← readChar '.' cs)
  return (⟨a, b, c, d⟩, cs)

/-- The address that the whole text denotes. -/
def parse? (cs : List Char) : Option Ipv4 :=
  match read cs with
  | some (x, []) => some x
  | _ => none

/-- The two groups of 16 bits that an address fills. -/
def groups (x : Ipv4) : List Nat :=
  [x.a.toNat * 256 + x.b.toNat, x.c.toNat * 256 + x.d.toNat]

end Ipv4

namespace Ipv6

/-- Reads what separates group `i` from the one before it: nothing before the first. -/
def readSeparator (i : Nat) (cs : List Char) : Option (List Char) :=
  if i = 0 then some cs else readChar ':' cs

/-- Reads up to `room` groups, of which the last two may be given as an address of version 4.
Answers the groups, whether they end that way, and the rest. -/
def readGroups : (room i : Nat) → List Char → List Nat × Bool × List Char
  | 0, _, cs => ([], false, cs)
  | room + 1, i, cs =>
    let dotted :=
      if room = 0 then none else (readSeparator i cs).bind Ipv4.read
    match dotted with
    | some (v4, rest) => (v4.groups, true, rest)
    | none =>
      match (readSeparator i cs).bind (readNumber 16 (some 4) true 65536) with
      | none => ([], false, cs)
      | some (g, rest) =>
        let (gs, ended, rest) := readGroups room (i + 1) rest
        (g :: gs, ended, rest)

/-- Reads an address at the front of a text. -/
def read (cs : List Char) : Option (Ipv6 × List Char) :=
  let (front, dotted, rest) := readGroups 8 0 cs
  if front.length = 8 then (ofGroups? front).map (·, rest)
  else if dotted then none
  else
    (readChar ':' rest).bind fun rest => (readChar ':' rest).bind fun rest =>
      let (back, _, rest) := readGroups (7 - front.length) 0 rest
      let zeros := List.replicate (8 - front.length - back.length) 0
      (ofGroups? (front ++ zeros ++ back)).map (·, rest)

/-- The address that the whole text denotes. -/
def parse? (cs : List Char) : Option Ipv6 :=
  match read cs with
  | some (x, []) => some x
  | _ => none

end Ipv6

/-- The address of either version that the whole text denotes. -/
def Ip.parse? (cs : List Char) : Option Ip :=
  match Ipv4.parse? cs with
  | some x => some (.v4 x)
  | none => (Ipv6.parse? cs).map .v6

/-! ### Socket addresses -/

/-- An address with a port below 65536. -/
structure SocketAddress where
  ip : Ip
  port : Nat
  deriving DecidableEq, Repr

namespace SocketAddress

/-- Reads a colon and a port, which must end the text. -/
def readPort (cs : List Char) : Option Nat :=
  match (readChar ':' cs).bind (readNumber 10 none true 65536) with
  | some (port, []) => some port
  | _ => none

/-- Skips a zone number behind an address of version 6. -/
def skipZone (cs : List Char) : Option (List Char) :=
  match cs with
  | '%' :: rest => (readNumber 10 none true 4294967296 rest).map (·.2)
  | cs => some cs

/-- An address of version 4 with a port. -/
def parseV4? (cs : List Char) : Option SocketAddress := do
  let (x, rest) ← Ipv4.read cs
  return ⟨.v4 x, ← readPort rest⟩

/-- An address of version 6 in brackets, with a port. -/
def parseV6? (cs : List Char) : Option SocketAddress := do
  let (x, rest) ← Ipv6.read (← readChar '[' cs)
  return ⟨.v6 x, ← readPort (← readChar ']' (← skipZone rest))⟩

/-- The socket address that the whole text denotes. -/
def parse? (s : String) : Option SocketAddress :=
  match parseV4? s.toList with
  | some x => some x
  | none => parseV6? s.toList

/-- The text of a socket address. -/
def text (x : SocketAddress) : List Char :=
  match x.ip with
  | .v4 ip => ip.text ++ ':' :: Numeral.digits x.port
  | .v6 ip => '[' :: ip.text ++ ']' :: ':' :: Numeral.digits x.port

end SocketAddress

end Gatehouse
