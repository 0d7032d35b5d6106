/-!
# UTF-8

Bytes stand for text by UTF-8. `encode` writes a text, `decode?` reads bytes back and refuses
everything that no text is written as: stray continuation bytes, overlong forms, surrogates and
values above U+10FFFF.

## Main definitions

* `Bytes` : a sequence of bytes.
* `Utf8.encode`, `Utf8.decode?` : text to bytes and back.
* `Bytes.ofText`, `Bytes.toText?` : the same on `String`.
-/

namespace Gatehouse

/-- A sequence of bytes. -/
abbrev Bytes := List UInt8

namespace Utf8

/-- The bytes of one character, one to four of them. -/
def encodeChar (c : Char) : Bytes :=
  let n := c.toNat
  if n < 0x80 then [UInt8.ofNat n]
  else if n < 0x800 then [UInt8.ofNat (0xC0 + n / 64), UInt8.ofNat (0x80 + n % 64)]
  else if n < 0x10000 then
    [UInt8.ofNat (0xE0 + n / 4096), UInt8.ofNat (0x80 + n / 64 % 64), UInt8.ofNat (0x80 + n % 64)]
  else
    [UInt8.ofNat (0xF0 + n / 262144), UInt8.ofNat (0x80 + n / 4096 % 64),
      UInt8.ofNat (0x80 + n / 64 % 64), UInt8.ofNat (0x80 + n % 64)]

/-- The bytes of a text, character by character. -/
def encode (cs : List Char) : Bytes := cs.flatMap encodeChar

/-- The six payload bits of a continuation byte. -/
def continuation? (b : UInt8) : Option Nat :=
  if 0x80 ≤ b.toNat ∧ b.toNat < 0xC0 then some (b.toNat - 0x80) else none

/-- The character with code point `n`, unless `n` lies below `least`, above U+10FFFF or among
the surrogates. -/
def scalar? (least n : Nat) : Option Char :=
  if least ≤ n ∧ n ≤ 0x10FFFF ∧ ¬ (0xD800 ≤ n ∧ n ≤ 0xDFFF) then some (Char.ofNat n) else none

/-- The text that the bytes stand for, if they are UTF-8. -/
def decode? : Bytes → Option (List Char)
  | [] => some []
  | a :: rest =>
    if a.toNat < 0x80 then (decode? rest).map (Char.ofNat a.toNat :: ·)
    else if a.toNat < 0xC0 then none
    else
      match rest with
      | [] => none
      | b :: rest =>
        (continuation? b).bind fun b =>
        if a.toNat < 0xE0 then
          (scalar? 0x80 ((a.toNat - 0xC0) * 64 + b)).bind fun ch =>
            (decode? rest).map (ch :: ·)
        else
          match rest with
          | [] => none
          | c :: rest =>
            (continuation? c).bind fun c =>
            if a.toNat < 0xF0 then
              (scalar? 0x800 ((a.toNat - 0xE0) * 4096 + b * 64 + c)).bind fun ch =>
                (decode? rest).map (ch :: ·)
            else
              match rest with
              | [] => none
              | d :: rest =>
                (continuation? d).bind fun d =>
                (scalar? 0x10000 ((a.toNat - 0xF0) * 262144 + b * 4096 + c * 64 + d)).bind
                  fun ch => (decode? rest).map (ch :: ·)

end Utf8

/-- The bytes of a text. -/
def Bytes.ofText (s : String) : Bytes := Utf8.encode s.toList

/-- The text that the bytes stand for, if they are UTF-8. -/
def Bytes.toText? (bs : Bytes) : Option String := (Utf8.decode? bs).map String.ofList

end Gatehouse
