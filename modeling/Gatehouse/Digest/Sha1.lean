import Gatehouse.Text.Utf8

/-!
# SHA-1

The digest of some bytes, of 20 bytes. The bytes are padded to blocks of 64, and each block of
sixteen words is spread to eighty, which are worked into five words one after the other.

## Main definitions

* `Sha1.pad` : the blocks, all in one.
* `Sha1.schedule` : the eighty words of a block.
* `Sha1.digest` : the digest.
-/

namespace Gatehouse.Sha1

/-- The five words that a digest is made of. -/
structure State where
  a : UInt32
  b : UInt32
  c : UInt32
  d : UInt32
  e : UInt32
  deriving DecidableEq, Repr

/-- The words before the first block. -/
def initial : State := ⟨0x67452301, 0xEFCDAB89, 0x98BADCFE, 0x10325476, 0xC3D2E1F0⟩

/-- A word with its bits moved `n` places up, those that fall out coming back at the bottom. -/
def rotate (x n : UInt32) : UInt32 := (x <<< n) ||| (x >>> (32 - n))

/-- The lowest `count` bytes of a number, the highest of them first. -/
def bytesOf (count n : Nat) : Bytes :=
  (List.range count).reverse.map fun i => UInt8.ofNat (n / Nat.pow 256 i % 256)

/-- The bytes with a one bit, zeros and their number of bits behind them, up to a multiple of 64
bytes. -/
def pad (bs : Bytes) : Bytes :=
  bs ++ 0x80 :: List.replicate ((119 - bs.length % 64) % 64) 0 ++ bytesOf 8 (bs.length * 8)

/-- The words that bytes stand for, four bytes each. -/
def words : Bytes → List UInt32
  | a :: b :: c :: d :: rest =>
    (a.toUInt32 <<< 24 ||| b.toUInt32 <<< 16 ||| c.toUInt32 <<< 8 ||| d.toUInt32) :: words rest
  | _ => []

/-- Puts `count` more words in front of words, each made of four of the last sixteen. -/
def extend : (count : Nat) → List UInt32 → List UInt32
  | 0, ws => ws
  | count + 1, ws =>
    extend count (rotate (ws.getD 2 0 ^^^ ws.getD 7 0 ^^^ ws.getD 13 0 ^^^ ws.getD 15 0) 1 :: ws)

/-- The eighty words of a block. -/
def schedule (block : List UInt32) : List UInt32 := (extend 64 block.reverse).reverse

/-- The mixture of three words, and the constant, in round `t`. -/
def roundFunction (t : Nat) (b c d : UInt32) : UInt32 × UInt32 :=
  if t < 20 then ((b &&& c) ||| ((b ^^^ 0xFFFFFFFF) &&& d), 0x5A827999)
  else if t < 40 then (b ^^^ c ^^^ d, 0x6ED9EBA1)
  else if t < 60 then ((b &&& c) ||| (b &&& d) ||| (c &&& d), 0x8F1BBCDC)
  else (b ^^^ c ^^^ d, 0xCA62C1D6)

/-- Works words into the state, from round `t` on. -/
def rounds : (t : Nat) → State → List UInt32 → State
  | _, s, [] => s
  | t, s, w :: ws =>
    let (f, k) := roundFunction t s.b s.c s.d
    rounds (t + 1) ⟨rotate s.a 5 + f + s.e + k + w, s.a, rotate s.b 30, s.c, s.d⟩ ws

/-- The state after one more block. -/
def addBlock (s : State) (block : List UInt32) : State :=
  let r := rounds 0 s (schedule block)
  ⟨s.a + r.a, s.b + r.b, s.c + r.c, s.d + r.d, s.e + r.e⟩

/-- The state after `count` blocks of words. -/
def addBlocks : (count : Nat) → State → List UInt32 → State
  | 0, s, _ => s
  | count + 1, s, ws => addBlocks count (addBlock s (ws.take 16)) (ws.drop 16)

/-- The digest of some bytes. -/
def digest (bs : Bytes) : Bytes :=
  let padded := pad bs
  let s := addBlocks (padded.length / 64) initial (words padded)
  [s.a, s.b, s.c, s.d, s.e].flatMap fun w => bytesOf 4 w.toNat

end Gatehouse.Sha1
