import Gatehouse.Rack.Basic

/-!
# Picking one process of several

A process is picked uniformly from a list with words of 32 random bits. The word `x` picks the
index `x * n / 2^32`. When the remainder `x * n % 2^32` shows that the next word could still
carry into the index, that word is drawn as well, and the carry is added; a third word is never
drawn. So the index is that of a number of 64 random bits.

## Main definitions

* `Draws` : an endless sequence of random words.
* `Selection.index` : the index picked among `n`, and the number of words used.
* `Selection.pick` : the element picked from a list.
-/

namespace Gatehouse

/-- An endless sequence of random words of 32 bits. -/
abbrev Draws := Nat → UInt32

/-- The sequence without its first `k` words. -/
def Draws.drop (draws : Draws) (k : Nat) : Draws := fun i => draws (i + k)

namespace Selection

/-- The number of values of a word. -/
def wordCount : Nat := Nat.pow 2 32

/-- Whether the next word may still carry into the index that the word `x` picks among `n`. -/
def needsSecond (n x : Nat) : Bool := wordCount - n < x * n % wordCount

/-- The carry that the second word `y` adds to the index that the word `x` picks among `n`. -/
def carry (n x y : Nat) : Nat :=
  if wordCount ≤ x * n % wordCount + y * n / wordCount then 1 else 0

/-- The index picked among `n` elements, and the number of words used for it. -/
def index (n : Nat) (draws : Draws) : Nat × Nat :=
  let x := (draws 0).toNat
  let y := (draws 1).toNat
  if needsSecond n x then (x * n / wordCount + carry n x y, 2) else (x * n / wordCount, 1)

/-- The element picked from a list, and the number of words used. The empty list uses none. -/
def pick {α : Type} (xs : List α) (draws : Draws) : Option α × Nat :=
  match xs with
  | [] => (none, 0)
  | xs => let (i, used) := index xs.length draws; (xs[i]?, used)

/-- The elements picked in `times` picks one after the other, and the number of words used. -/
def pickMany {α : Type} (xs : List α) (draws : Draws) : (times : Nat) → List (Option α) × Nat
  | 0 => ([], 0)
  | times + 1 =>
    let (one, used) := pick xs draws
    let (others, usedLater) := pickMany xs (draws.drop used) times
    (one :: others, used + usedLater)

end Selection

end Gatehouse
