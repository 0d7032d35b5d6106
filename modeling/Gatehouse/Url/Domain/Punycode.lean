import Gatehouse.Text.Split

/-!
# Punycode

A label with characters beyond ASCII is written in ASCII: first its ASCII characters, then, after
a hyphen, a sequence of numbers that tell which other characters stand where. The numbers are
written with a digit range that adapts to their size.

## Main definitions

* `Punycode.encode` : the written form of a label.
* `Punycode.decode?` : the label of a written form.
-/

namespace Gatehouse.Punycode

/-- Divides until the value is at most 455, counting 36 for each division. -/
def settle : (fuel value steps : Nat) → Nat × Nat
  | 0, value, steps => (value, steps)
  | fuel + 1, value, steps =>
    if 455 < value then settle fuel (value / 35) (steps + 36) else (value, steps)

/-- The bias for the number after `delta`, which was written as the `count`-th one. -/
def adapt (delta count : Nat) (first : Bool) : Nat :=
  let halved := if first then delta / 700 else delta / 2
  let (value, steps) := settle 32 (halved + halved / count) 0
  steps + 36 * value / (value + 38)

/-- The bound of the digit at weight step `k`: from 1 to 26. -/
def threshold (k bias : Nat) : Nat :=
  if k ≤ bias then 1 else if bias + 26 ≤ k then 26 else k - bias

/-- The character of a digit below 36. -/
def digitChar (d : Nat) : Char := Char.ofNat (if d < 26 then d + 97 else d + 22)

/-- The value of a digit character. -/
def digitValue? (c : Char) : Option Nat :=
  if 'a' ≤ c ∧ c ≤ 'z' then some (c.toNat - 97)
  else if 'A' ≤ c ∧ c ≤ 'Z' then some (c.toNat - 65)
  else if '0' ≤ c ∧ c ≤ '9' then some (c.toNat - 22)
  else none

/-- The digits of a number under a bias. -/
def digits (bias : Nat) : (fuel k q : Nat) → List Char
  | 0, _, _ => []
  | fuel + 1, k, q =>
    let t := threshold k bias
    if q < t then [digitChar q]
    else digitChar (t + (q - t) % (36 - t)) :: digits bias fuel (k + 36) ((q - t) / (36 - t))

/-- What the encoder knows between two characters: the number of characters handled, the bias,
and the count of places passed since the last number. -/
structure Progress where
  handled : Nat
  bias : Nat
  delta : Nat
  first : Bool

/-- Passes once over the label, writing a number at each place that holds the code point `n`. -/
def writePoint (n : Nat) : List Char → Progress → List Char × Progress
  | [], p => ([], p)
  | c :: rest, p =>
    if c.toNat < n then writePoint n rest { p with delta := p.delta + 1 }
    else if c.toNat = n then
      let next : Progress :=
        ⟨p.handled + 1, adapt p.delta (p.handled + 1) p.first, 0, false⟩
      let (out, last) := writePoint n rest next
      (digits p.bias 32 36 p.delta ++ out, last)
    else writePoint n rest p

/-- Writes the numbers of all the code points of the ascending list. -/
def writePoints (label : List Char) : (n : Nat) → List Nat → Progress → List Char
  | _, [], _ => []
  | n, m :: points, p =>
    let (out, next) :=
      writePoint m label { p with delta := p.delta + (m - n) * (p.handled + 1) }
    out ++ writePoints label (m + 1) points { next with delta := next.delta + 1 }

/-- Inserts a number into an ascending list, unless it is there. -/
def insertAscending (n : Nat) : List Nat → List Nat
  | [] => [n]
  | m :: rest =>
    if n < m then n :: m :: rest else if n = m then m :: rest else m :: insertAscending n rest

/-- The written form of a label. -/
def encode (label : List Char) : List Char :=
  let basic := label.filter (·.toNat < 128)
  let points :=
    (label.filter (128 ≤ ·.toNat)).foldr (fun c acc => insertAscending c.toNat acc) []
  let front := if basic = [] then [] else basic ++ ['-']
  front ++ writePoints label 128 points ⟨basic.length, 72, 0, true⟩

/-- What the decoder knows between two digits. -/
structure Reading where
  /-- The characters put in place so far. -/
  label : List Char
  /-- The code point of the last number. -/
  point : Nat
  bias : Nat
  /-- The place at which the current number starts to count. -/
  start : Nat
  /-- The place reached by the digits of the current number. -/
  place : Nat
  weight : Nat
  step : Nat

/-- The state after a complete number that leads to `place`. -/
def Reading.complete (r : Reading) (place : Nat) : Option Reading :=
  let count := r.label.length + 1
  let point := r.point + place / count
  if point ≤ 0x10FFFF ∧ ¬ (0xD800 ≤ point ∧ point ≤ 0xDFFF) then
    let spot := place % count
    some {
      label := r.label.take spot ++ Char.ofNat point :: r.label.drop spot
      point
      bias := adapt (place - r.start) count (r.start = 0)
      start := spot + 1
      place := spot + 1
      weight := 1
      step := 36 }
  else none

/-- Reads the digits of the numbers and puts the characters in place. -/
def readDigits : List Char → Reading → Option (List Char)
  | [], r => if r.step = 36 then some r.label else none
  | c :: rest, r =>
    (digitValue? c).bind fun d =>
      let place := r.place + d * r.weight
      let t := threshold r.step r.bias
      if Nat.pow 2 32 ≤ place then none
      else if d < t then (r.complete place).bind (readDigits rest)
      else readDigits rest
        { r with place, weight := r.weight * (36 - t), step := r.step + 36 }

/-- The label of a written form. -/
def decode? (text : List Char) : Option (List Char) :=
  let (basic, numbers) := (Text.cutLast '-' text).getD ([], text)
  if basic.all (·.toNat < 128) then readDigits numbers ⟨basic, 128, 72, 0, 0, 1, 36⟩ else none

end Gatehouse.Punycode
