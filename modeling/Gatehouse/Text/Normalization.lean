import Gatehouse.Text.Normalization.Table
import Gatehouse.Text.Split
import Gatehouse.Text.Numeral

/-!
# Canonical composition

A text is brought into its composed form: every character is taken apart into a base and its
combining marks, the marks are put into the order of their classes, and what can be composed
again is composed. Syllables of Hangul are taken apart and composed by arithmetic.

## Main definitions

* `Normalization.compose` : the composed form of a text.
* `Normalization.isMark` : whether a character is a combining mark.
-/

namespace Gatehouse.Normalization

/-! ### Reading the tables -/

/-- The number that hexadecimal digits denote. -/
def hexValue (cs : List Char) : Nat :=
  cs.foldl (fun acc c => acc * 16 + (Numeral.hexDigit? c).getD 0) 0

/-- The fields of the rows of a table, each row cut at the separators in turn. -/
def rowsOf (table : List String) : List (List Char) :=
  table.flatMap fun line => Text.splitOn ' ' line.toList

/-- The composed characters with the two they are composed of. -/
def compositions : List (Char × Char × Char) :=
  (rowsOf compositionRows).filterMap fun row =>
    match Text.splitOn '=' row with
    | [p, ab] =>
      match Text.splitOn '.' ab with
      | [a, b] => some (Char.ofNat (hexValue p), Char.ofNat (hexValue a), Char.ofNat (hexValue b))
      | _ => none
    | _ => none

/-- A run of characters: its first code point and its length. -/
structure Run where
  first : Nat
  count : Nat

/-- The run that a field `p+n` denotes. -/
def Run.ofField (field : List Char) : Run :=
  match Text.splitOn '+' field with
  | [p, n] => ⟨hexValue p, hexValue n⟩
  | _ => ⟨0, 0⟩

/-- Whether a character belongs to a run. -/
def Run.has (r : Run) (c : Char) : Bool := r.first ≤ c.toNat && c.toNat < r.first + r.count

/-- The runs of characters with their combining classes. -/
def classes : List (Run × Nat) :=
  (rowsOf classRows).filterMap fun row =>
    match Text.splitOn '=' row with
    | [run, k] =>
      match Numeral.read 256 k with
      | .ok k => some (Run.ofField run, k)
      | .error _ => none
    | _ => none

/-- The runs of combining marks. -/
def marks : List Run := (rowsOf markRows).map Run.ofField

/-- The combining class of a character, 0 for all that do not combine. -/
def combiningClass (c : Char) : Nat :=
  if c.toNat < 0x300 then 0
  else
    match classes.find? (·.1.has c) with
    | some (_, k) => k
    | none => 0

/-- Whether a character is a combining mark. -/
def isMark (c : Char) : Bool := 0x300 ≤ c.toNat && marks.any (·.has c)

/-! ### Hangul -/

/-- The parts of a syllable of Hangul: a leading consonant, a vowel and perhaps a trailing
consonant. -/
def syllableParts? (c : Char) : Option (List Char) :=
  if 0xAC00 ≤ c.toNat ∧ c.toNat ≤ 0xD7A3 then
    let s := c.toNat - 0xAC00
    let pair := [Char.ofNat (0x1100 + s / 588), Char.ofNat (0x1161 + s % 588 / 28)]
    some (if s % 28 = 0 then pair else pair ++ [Char.ofNat (0x11A7 + s % 28)])
  else none

/-- The syllable composed of two parts, or of a syllable and a trailing consonant. -/
def syllable? (a b : Char) : Option Char :=
  let x := a.toNat
  let y := b.toNat
  if 0x1100 ≤ x ∧ x < 0x1113 ∧ 0x1161 ≤ y ∧ y < 0x1176 then
    some (Char.ofNat (0xAC00 + ((x - 0x1100) * 21 + (y - 0x1161)) * 28))
  else if 0xAC00 ≤ x ∧ x ≤ 0xD7A3 ∧ (x - 0xAC00) % 28 = 0 ∧ 0x11A7 < y ∧ y < 0x11C3 then
    some (Char.ofNat (x + (y - 0x11A7)))
  else none

/-! ### Taking apart, ordering and composing -/

/-- Takes a character apart as far as possible, at most `depth` times. -/
def decomposeChar : (depth : Nat) → Char → List Char
  | 0, c => [c]
  | depth + 1, c =>
    if c.toNat < 0xC0 then [c]
    else
      match syllableParts? c with
      | some parts => parts
      | none =>
        match compositions.find? (·.1 == c) with
        | some (_, a, b) => decomposeChar depth a ++ [b]
        | none => [c]

/-- Puts a mark of class `k` behind the marks at the end of a reversed text whose classes are
not above `k`. -/
def insertMark (k : Nat) (c : Char) : List (Char × Nat) → List (Char × Nat)
  | [] => [(c, k)]
  | (d, l) :: before =>
    if k < l then (d, l) :: insertMark k c before else (c, k) :: (d, l) :: before

/-- The text with the marks of each base in the order of their classes. -/
def orderMarks (cs : List Char) : List Char :=
  let sorted := cs.foldl (fun acc c =>
    let k := combiningClass c
    if k = 0 then (c, 0) :: acc else insertMark k c acc) []
  sorted.reverse.map (·.1)

/-- The character composed of two. -/
def composePair? (a b : Char) : Option Char :=
  match syllable? a b with
  | some c => some c
  | none => (compositions.find? fun row => row.2.1 == a && row.2.2 == b).map (·.1)

/-- Composes what follows a base character with it. `behind` holds the marks that stand behind
the base without being composed with it, and `last` the class of the last of them. -/
def composeFrom (base : Char) (behind : List Char) (last : Nat) : List Char → List Char
  | [] => base :: behind
  | c :: rest =>
    let k := combiningClass c
    match (if behind = [] ∨ last < k then composePair? base c else none) with
    | some p => composeFrom p behind last rest
    | none =>
      if k = 0 then base :: behind ++ composeFrom c [] 0 rest
      else composeFrom base (behind ++ [c]) k rest

/-- The composed form of a text. -/
def compose (cs : List Char) : List Char :=
  if cs.all (·.toNat < 0x80) then cs
  else
    let apart := orderMarks (cs.flatMap (decomposeChar 4))
    let leading := apart.takeWhile fun c => combiningClass c ≠ 0
    match apart.dropWhile fun c => combiningClass c ≠ 0 with
    | [] => leading
    | base :: rest => leading ++ composeFrom base [] 0 rest

end Gatehouse.Normalization
