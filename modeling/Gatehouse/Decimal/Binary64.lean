/-!
# Binary floating point

Non-negative numbers of the form `m * 2^e` with 53 significant bits, as fractions rounded to the
nearest such number, halves to the even neighbour. All arithmetic is exact on fractions, and only
the result of an operation is rounded.

## Main definitions

* `Binary64` : a number `m * 2^e`.
* `Binary64.round?` : the number nearest to a fraction, unless that is beyond the range.
* `Binary64.mul?`, `Binary64.div?` : rounded products and quotients.
-/

namespace Gatehouse

/-- The number `significand * 2^exponent`. -/
structure Binary64 where
  significand : Nat
  exponent : Int
  deriving DecidableEq, Repr

namespace Binary64

/-- Zero. -/
def zero : Binary64 := ⟨0, 0⟩

/-- The fraction that equals `significand * 2^exponent`. -/
def fraction (x : Binary64) : Nat × Nat :=
  (x.significand * Nat.pow 2 x.exponent.toNat, Nat.pow 2 (-x.exponent).toNat)

/-- The quotient of a fraction by `2^e`, rounded down, and how twice the remainder compares to
the divisor. -/
def quotient (num den : Nat) (e : Int) : Nat × Ordering :=
  let n := num * Nat.pow 2 (-e).toNat
  let d := den * Nat.pow 2 e.toNat
  (n / d, compare (2 * (n % d)) d)

/-- Rounds a quotient to the nearest number, a half to the even one. -/
def nearest (q : Nat × Ordering) : Nat :=
  match q.2 with
  | .lt => q.1
  | .gt => q.1 + 1
  | .eq => q.1 + q.1 % 2

/-- The least exponent of a number. -/
def leastExponent : Int := -1074

/-- The exponent for which the quotient of a fraction has 53 bits, as far as there is one. -/
def exponentOf (num den : Nat) : Int :=
  let e : Int := (Nat.log2 num : Int) - (Nat.log2 den : Int) - 53
  let e := max e leastExponent
  if Nat.pow 2 53 ≤ (quotient num den e).1 then e + 1 else e

/-- The number nearest to the fraction `num / den`, or none if it is beyond the range. -/
def round? (num den : Nat) : Option Binary64 :=
  if num = 0 then some zero
  else
    let e := exponentOf num den
    let m := nearest (quotient num den e)
    let x : Binary64 := if m = Nat.pow 2 53 then ⟨Nat.pow 2 52, e + 1⟩ else ⟨m, e⟩
    if 971 < x.exponent then none else some x

/-- The rounded product of two numbers. -/
def mul? (x y : Binary64) : Option Binary64 :=
  let (a, b) := x.fraction
  let (c, d) := y.fraction
  round? (a * c) (b * d)

/-- The rounded quotient of two numbers. -/
def div? (x y : Binary64) : Option Binary64 :=
  let (a, b) := x.fraction
  let (c, d) := y.fraction
  round? (a * d) (b * c)

/-- The number nearest to a power of ten. -/
def powerOfTen (k : Nat) : Binary64 := (round? (Nat.pow 10 k) 1).getD zero

end Binary64

end Gatehouse
