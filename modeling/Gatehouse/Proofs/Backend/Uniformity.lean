import Gatehouse.Proofs.Backend.Selection
import Mathlib.Algebra.Order.Floor.Div
import Mathlib.Data.Set.Card
import Mathlib.Order.Interval.Finset.Nat

/-!
# Every process is picked equally often

Two words of 32 bits are the digits of a number of 64 bits. What they pick among `n` elements is the
place of that number when the numbers of 64 bits are laid out evenly over the elements, whether or
not the second word is drawn: it is left out only where it could not carry. So the numbers that pick
an element are those between two neighbours of the multiples of `2^64 / n`, rounded up, and any two
elements are picked by equally many numbers, up to one.

## Main definitions

* `Draws.starting` : the sequence that starts with two given words.
* `Selection.number` : the number whose digits are two given words.

## Main results

* `Selection.index_eq_mul_div` : the index that words pick is the place of their number.
* `Selection.mul_div_eq_iff` : the numbers at a place are those of an interval.
* `Selection.ncard_index_eq` : how many pairs of words pick an index.
* `Selection.uniform_pick` : a pick is uniform.
-/

namespace Gatehouse

/-- The sequence that starts with the words `x` and `y`. -/
def Draws.starting (x y : UInt32) (later : Draws) : Draws
  | 0 => x
  | 1 => y
  | i + 2 => later i

namespace Selection

variable {n : Nat}

/-! ### The place of a number -/

/-- The number whose digits are the words `x` and `y`. -/
def number (x y : UInt32) : Nat := x.toNat * 2 ^ 32 + y.toNat

/-- The place of the number with the digits `x` and `y`: that of `x` alone, and what `y` carries. -/
theorem mul_div_eq_add_carry {x y : Nat} (hy : y < 2 ^ 32) (hn : n ≤ 2 ^ 32) :
    (x * 2 ^ 32 + y) * n / 2 ^ 64 = x * n / wordCount + carry n x y := by
  have hword : wordCount = 2 ^ 32 := rfl
  have hlow : x * n % 2 ^ 32 < 2 ^ 32 := Nat.mod_lt _ (by decide)
  have hhigh : y * n / 2 ^ 32 < 2 ^ 32 := by
    refine Nat.div_lt_of_lt_mul ?_
    calc y * n ≤ y * 2 ^ 32 := Nat.mul_le_mul_left y hn
      _ < 2 ^ 32 * 2 ^ 32 := Nat.mul_lt_mul_of_pos_right hy (by decide)
  have hmul : (x * 2 ^ 32 + y) * n = y * n + 2 ^ 32 * (x * n) := by
    rw [Nat.add_mul, Nat.add_comm, Nat.mul_right_comm, Nat.mul_comm (x * n)]
  rw [show 2 ^ 64 = 2 ^ 32 * 2 ^ 32 from rfl, ← Nat.div_div_eq_div_mul, hmul,
    Nat.add_mul_div_left _ _ (by decide), carry, hword]
  split <;> omega

/-- The second word carries nothing unless it is needed. -/
theorem carry_eq_zero {x y : Nat} (hpos : 0 < n) (hn : n ≤ 2 ^ 32) (hy : y < 2 ^ 32)
    (h : needsSecond n x = false) : carry n x y = 0 := by
  have hword : wordCount = 2 ^ 32 := rfl
  have hlow : x * n % 2 ^ 32 ≤ 2 ^ 32 - n := by
    rw [needsSecond, hword, decide_eq_false_iff_not, Nat.not_lt] at h
    exact h
  have hhigh : y * n / 2 ^ 32 < n :=
    Nat.div_lt_of_lt_mul (Nat.mul_lt_mul_of_pos_right hy hpos)
  rw [carry, hword, if_neg (by omega)]

/-- The index that words pick is the place of their number, whether the second word is needed or
not. -/
theorem index_eq_mul_div (hpos : 0 < n) (hn : n ≤ 2 ^ 32) (draws : Draws) :
    (index n draws).1 = number (draws 0) (draws 1) * n / 2 ^ 64 := by
  have hy : (draws 1).toNat < 2 ^ 32 := (draws 1).toNat_lt
  rw [number, mul_div_eq_add_carry hy hn]
  unfold index
  dsimp only
  split
  next => rfl
  next hneeds => rw [carry_eq_zero hpos hn hy (Bool.not_eq_true _ ▸ hneeds), Nat.add_zero]

/-! ### The numbers at a place -/

/-- The numbers at the place `i` are those from one multiple, rounded up, to the next. -/
theorem mul_div_eq_iff {total i z : Nat} (hpos : 0 < n) (htotal : 0 < total) :
    z * n / total = i ↔ z ∈ Finset.Ico (i * total ⌈/⌉ n) ((i + 1) * total ⌈/⌉ n) := by
  rw [Finset.mem_Ico, ceilDiv_le_iff_le_mul hpos, ← not_le, ceilDiv_le_iff_le_mul hpos, not_le,
    Nat.mul_comm n z, Nat.div_eq_iff htotal]
  have hnext : (i + 1) * total = i * total + total := Nat.succ_mul i total
  omega

/-- A quotient that is rounded up exceeds the exact one by less than one. -/
theorem mul_ceilDiv_lt (a : Nat) (hpos : 0 < n) : n * (a ⌈/⌉ n) < a + n := by
  have hdiv := Nat.mul_div_le (a + n - 1) n
  rw [Nat.ceilDiv_eq_add_pred_div]
  omega

/-- There are equally many numbers at all places, up to one. -/
theorem card_Ico_ceilDiv (total i : Nat) (hpos : 0 < n) :
    (Finset.Ico (i * total ⌈/⌉ n) ((i + 1) * total ⌈/⌉ n)).card = total / n ∨
      (Finset.Ico (i * total ⌈/⌉ n) ((i + 1) * total ⌈/⌉ n)).card = total ⌈/⌉ n := by
  have hle (a : Nat) : a ≤ n * (a ⌈/⌉ n) := (ceilDiv_le_iff_le_mul hpos).1 (Nat.le_refl _)
  have hfirst := hle (i * total)
  have hfirst' := mul_ceilDiv_lt (i * total) hpos
  have hlast := hle ((i + 1) * total)
  have hlast' := mul_ceilDiv_lt ((i + 1) * total) hpos
  rw [Nat.succ_mul] at hlast hlast'
  rw [Nat.card_Ico, Nat.succ_mul]
  -- The width of the interval is `total / n` up to less than one on either side.
  have hwidth := Nat.mul_sub n ((i * total + total) ⌈/⌉ n) (i * total ⌈/⌉ n)
  generalize (i * total + total) ⌈/⌉ n - i * total ⌈/⌉ n = width at hwidth ⊢
  have hfloor : total / n < width + 1 := Nat.div_lt_of_lt_mul (by rw [Nat.mul_succ]; omega)
  have hceil : width < total ⌈/⌉ n + 1 := by
    have htotal := hle total
    exact Nat.lt_of_mul_lt_mul_left (a := n) (by rw [Nat.mul_succ]; omega)
  have hgap : total ⌈/⌉ n ≤ total / n + 1 :=
    (ceilDiv_le_iff_le_mul hpos).2 (Nat.lt_mul_div_succ total hpos).le
  omega

/-! ### Pairs of words -/

/-- Different pairs of words are the digits of different numbers. -/
theorem number_injective : Function.Injective fun p : UInt32 × UInt32 => number p.1 p.2 := by
  rintro ⟨x, y⟩ ⟨x', y'⟩ h
  have hy := y.toNat_lt
  have hy' := y'.toNat_lt
  simp only [number] at h
  have hfirst : x.toNat = x'.toNat := by omega
  have hsecond : y.toNat = y'.toNat := by omega
  rw [UInt32.toNat_inj.1 hfirst, UInt32.toNat_inj.1 hsecond]

/-- Every number of 64 bits has its digits. -/
theorem exists_number_eq {z : Nat} (hz : z < 2 ^ 64) :
    ∃ p : UInt32 × UInt32, number p.1 p.2 = z := by
  refine ⟨(UInt32.ofNat (z / 2 ^ 32), UInt32.ofNat (z % 2 ^ 32)), ?_⟩
  rw [number, UInt32.toNat_ofNat_of_lt' (by simp only [UInt32.size]; omega),
    UInt32.toNat_ofNat_of_lt' (by simp only [UInt32.size]; omega)]
  omega

/-- There are as many pairs of words that pick an index as there are numbers at its place. -/
theorem ncard_index_eq (hpos : 0 < n) (hn : n ≤ 2 ^ 32) {i : Nat} (hi : i < n) (later : Draws) :
    {p : UInt32 × UInt32 | (index n (.starting p.1 p.2 later)).1 = i}.ncard =
      (Finset.Ico (i * 2 ^ 64 ⌈/⌉ n) ((i + 1) * 2 ^ 64 ⌈/⌉ n)).card := by
  rw [← Set.ncard_image_of_injective _ number_injective, ← Set.ncard_coe_finset]
  congr 1
  ext z
  rw [Finset.mem_coe, ← mul_div_eq_iff hpos (by decide)]
  constructor
  · rintro ⟨p, hp, rfl⟩
    rw [← (show (index n _).1 = i from hp), index_eq_mul_div hpos hn]
    rfl
  · intro hz
    have hlt : z < 2 ^ 64 := by
      refine Nat.lt_of_mul_lt_mul_right (a := n) ?_
      calc z * n < (i + 1) * 2 ^ 64 := (Nat.div_lt_iff_lt_mul (by decide)).1 (by omega)
        _ ≤ n * 2 ^ 64 := Nat.mul_le_mul_right _ hi
        _ = 2 ^ 64 * n := Nat.mul_comm _ _
    obtain ⟨p, rfl⟩ := exists_number_eq hlt
    exact ⟨p, (index_eq_mul_div hpos hn _).trans hz, rfl⟩

/-- A pick is uniform.

A pick from `n` elements finds the one at the place of the number whose digits are the next two
words, whether or not the second one is drawn. Of all pairs of words, those that pick a given one of
the elements are `2 ^ 64 / n` many, rounded down or up. A pick from no elements finds nothing and
draws no word. -/
theorem uniform_pick {α : Type} {xs : List α} (hpos : 1 ≤ xs.length)
    (hlen : xs.length < 2 ^ 32) :
    (∀ draws : Draws,
      let place := number (draws 0) (draws 1) * xs.length / 2 ^ 64
      (index xs.length draws).1 = place ∧
        ∃ h : place < xs.length, (pick xs draws).1 = some xs[place]) ∧
    (∀ i < xs.length, ∀ later : Draws,
      let count := {p : UInt32 × UInt32 |
        (index xs.length (.starting p.1 p.2 later)).1 = i}.ncard
      count = 2 ^ 64 / xs.length ∨ count = 2 ^ 64 ⌈/⌉ xs.length) ∧
    ∀ draws, pick ([] : List α) draws = (none, 0) := by
  refine ⟨fun draws => ?_, fun i hi later => ?_, pick_nil⟩
  · have hindex := index_eq_mul_div hpos hlen.le draws
    have hlt : (index xs.length draws).1 < xs.length := index_lt hpos draws
    refine ⟨hindex, hindex ▸ hlt, ?_⟩
    rw [pick_of_ne_nil (List.length_pos_iff.1 hpos)]
    simp only [hindex]
    exact List.getElem?_eq_getElem (hindex ▸ hlt)
  · rw [ncard_index_eq hpos hlen.le hi]
    exact card_Ico_ceilDiv (2 ^ 64) i hpos

/-- The second word decides between the first and the second of three processes. -/
theorem uniform_pick_threeProcesses :
    let draws : Draws := .starting 1431655765 2147483648 fun _ => 0
    (1 ≤ ["p1", "p2", "p3"].length ∧ ["p1", "p2", "p3"].length < 2 ^ 32) ∧
    needsSecond 3 (draws 0).toNat = true ∧ (pick ["p1", "p2", "p3"] draws).1 = some "p2" ∧
    ∀ i < 3, ({p : UInt32 × UInt32 | (index 3 (.starting p.1 p.2 draws)).1 = i}.ncard =
        6148914691236517205 ∨
      {p : UInt32 × UInt32 | (index 3 (.starting p.1 p.2 draws)).1 = i}.ncard =
        6148914691236517206) := by
  intro draws
  have hpos : 1 ≤ ["p1", "p2", "p3"].length := by decide
  obtain ⟨hpick, hcount, -⟩ := uniform_pick hpos (by decide)
  obtain ⟨-, h, hfound⟩ := hpick draws
  have hplace : number 1431655765 2147483648 * 3 / 2 ^ 64 = 1 := by decide
  have hsecond : (pick ["p1", "p2", "p3"] draws).1 = ["p1", "p2", "p3"][1]? :=
    hfound.trans ((List.getElem?_eq_getElem h).symm.trans
      (congrArg (["p1", "p2", "p3"][·]?) hplace))
  exact ⟨by decide, by decide, hsecond, fun i hi => hcount i hi draws⟩

end Selection

end Gatehouse
