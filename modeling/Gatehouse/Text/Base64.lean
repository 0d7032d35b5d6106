import Gatehouse.Text.Utf8

/-!
# Base64

Bytes are written as letters, digits, `+` and `/`, six bits each. Three bytes take four
characters; one or two bytes at the end are filled up with `=`.

## Main definitions

* `Base64.encode` : the text of some bytes.
-/

namespace Gatehouse.Base64

/-- The characters for the values below 64. -/
def alphabet : List Char :=
  "ABCDEFGHIJKLMNOPQRSTUVWXYZabcdefghijklmnopqrstuvwxyz0123456789+/".toList

/-- The character for a value below 64. -/
def character (n : Nat) : Char := alphabet.getD (n % 64) 'A'

/-- The text of some bytes. -/
def encode : Bytes → List Char
  | [] => []
  | [a] => [character (a.toNat / 4), character (a.toNat * 16), '=', '=']
  | [a, b] =>
    [character (a.toNat / 4), character (a.toNat * 16 + b.toNat / 16), character (b.toNat * 4), '=']
  | a :: b :: c :: rest =>
    character (a.toNat / 4) :: character (a.toNat * 16 + b.toNat / 16) ::
      character (b.toNat * 4 + c.toNat / 64) :: character c.toNat :: encode rest

end Gatehouse.Base64
