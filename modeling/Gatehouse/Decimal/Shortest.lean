import Gatehouse.Decimal.Binary64
import Gatehouse.Text.Numeral

/-!
# The shortest decimal that reads back

A binary number is written with the fewest decimal digits that still lie nearer to it than to any
other binary number. For one digit, two digits and so on, the two decimals next to the number are
tried; the first that lies in the interval of the number is taken, the nearer of the two if both
do.

## Main definitions

* `Shortest.digits` : the digits and the power of ten.
* `Shortest.text` : the decimal text: with a point from 10^-5 up to 10^16, and with an exponent
  outside.
-/

namespace Gatehouse.Shortest

/-- The interval of the reals that round to a number, in units of a quarter of its last place:
the lower end, the number and the upper end. -/
def interval (x : Binary64) : Nat × Nat × Nat :=
  let m := x.significand
  let below := if m = Nat.pow 2 52 ∧ Binary64.leastExponent < x.exponent then 1 else 2
  (4 * m - below, 4 * m, 4 * m + 2)

/-- Whether a decimal `d * 10^p` lies in the interval of a number; the ends belong to it if the
significand is even. -/
def inInterval (x : Binary64) (d : Nat) (p : Int) : Bool :=
  let (low, _, high) := interval x
  let e := x.exponent - 2
  let scale := Nat.pow 2 e.toNat * Nat.pow 10 (-p).toNat
  let value := d * Nat.pow 10 p.toNat * Nat.pow 2 (-e).toNat
  if x.significand % 2 = 0 then low * scale ≤ value && value ≤ high * scale
  else low * scale < value && value < high * scale

/-- The multiple of `10^p` just below a number, and whether the number is nearer to it than to
the next one. -/
def below (x : Binary64) (p : Int) : Nat × Bool :=
  let (a, b) := x.fraction
  let n := a * Nat.pow 10 (-p).toNat
  let d := b * Nat.pow 10 p.toNat
  (n / d, 2 * (n % d) ≤ d)

/-- The number of decimal places in front of the point, at most 1 too large. -/
def places (x : Binary64) : Int :=
  let (a, b) := x.fraction
  ((Nat.toDigits 10 a).length : Int) - ((Nat.toDigits 10 b).length : Int) + 1

/-- Tries the decimals with steps of `10^p`, finer by one place each time. -/
def search (x : Binary64) : (fuel : Nat) → (p : Int) → Nat × Int
  | 0, p => ((below x p).1, p)
  | fuel + 1, p =>
    let (d, nearer) := below x p
    let down := d ≠ 0 && inInterval x d p
    let up := inInterval x (d + 1) p
    if down && (nearer || !up) then (d, p)
    else if up then (d + 1, p)
    else search x fuel (p - 1)

/-- Removes zeros from the end of the digits. -/
def strip : (fuel : Nat) → Nat × Int → Nat × Int
  | 0, r => r
  | fuel + 1, (d, p) => if d % 10 = 0 ∧ d ≠ 0 then strip fuel (d / 10, p + 1) else (d, p)

/-- The digits of a number and the power of ten they are multiplied by. -/
def digits (x : Binary64) : Nat × Int := strip 20 (search x 25 (places x))

/-- The decimal text of a number. -/
def text (x : Binary64) : List Char :=
  if x.significand = 0 then ['0', '.', '0']
  else
    let (d, p) := digits x
    let ds := Numeral.digits d
    let point : Int := ds.length + p
    let zeros (n : Int) := List.replicate n.toNat '0'
    let exponent := ['e'] ++ (toString (point - 1)).toList
    if 0 ≤ p ∧ point ≤ 16 then ds ++ zeros p ++ ['.', '0']
    else if 0 < point ∧ point ≤ 16 then ds.take point.toNat ++ ['.'] ++ ds.drop point.toNat
    else if -5 < point ∧ point ≤ 0 then ['0', '.'] ++ zeros (-point) ++ ds
    else
      match ds with
      | [d] => d :: exponent
      | d :: rest => d :: '.' :: rest ++ exponent
      | [] => exponent

end Gatehouse.Shortest
