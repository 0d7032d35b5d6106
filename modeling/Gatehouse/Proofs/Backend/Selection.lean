import Gatehouse.Backend.Selection

/-!
# Which process is picked

The index that random words pick among `n` elements is below `n`, so a pick from a list that is
not empty always finds an element of it. If a word has values enough, every index is picked by
some words, so every element may be picked. What is picked depends on the place in the list only,
and not on what stands there.

## Main results

* `Selection.index_lt`: an index that is picked is one of the list.
* `Selection.exists_index_eq`: every index may be picked.
* `Selection.exists_pick_eq`, `Selection.mem_of_pick`: a pick finds an element of the list.
* `Selection.pick_map`: a pick from a list of images is the image of a pick.
* `Selection.exists_draws_pick_eq`: every element may be picked.
-/

namespace Gatehouse

namespace Selection

variable {α β : Type}

/-! ### The index -/

/-- The index picked among `n` elements is below `n`. -/
theorem index_lt {n : Nat} (hn : 0 < n) (draws : Draws) : (index n draws).1 < n := by
  have hword : wordCount = 4294967296 := rfl
  have hx : (draws 0).toNat * n ≤ 4294967295 * n :=
    Nat.mul_le_mul_right n (Nat.le_of_lt_succ (draws 0).toNat_lt)
  have hy : (draws 1).toNat * n ≤ 4294967295 * n :=
    Nat.mul_le_mul_right n (Nat.le_of_lt_succ (draws 1).toNat_lt)
  unfold index
  dsimp only
  split
  · unfold carry
    rw [hword]
    split <;> omega
  · rw [hword]
    omega

/-- Every index below `n` is picked by some words. -/
theorem exists_index_eq {n i : Nat} (hi : i < n) (hn : n ≤ wordCount) :
    ∃ draws, (index n draws).1 = i := by
  have hword : wordCount = 4294967296 := rfl
  rw [hword] at hn
  -- The least word whose product with `n` reaches `i` times the number of words.
  let x := (4294967296 * i + n - 1) / n
  have hmul : n * x + (4294967296 * i + n - 1) % n = 4294967296 * i + n - 1 := Nat.div_add_mod _ n
  have hmod : (4294967296 * i + n - 1) % n < n := Nat.mod_lt _ (Nat.zero_lt_of_lt hi)
  have hx : x < 4294967296 := by
    refine Nat.div_lt_of_lt_mul ?_
    rw [Nat.mul_comm n]
    omega
  have hdiv : n * x / 4294967296 = i := by omega
  refine ⟨fun k => if k = 0 then UInt32.ofNat x else 0, ?_⟩
  have hfirst : (UInt32.ofNat x).toNat = x := UInt32.toNat_ofNat_of_lt' hx
  have hcarry : carry n x 0 = 0 := by
    unfold carry
    rw [hword, Nat.zero_mul, Nat.zero_div, Nat.add_zero]
    exact if_neg (Nat.not_le_of_lt (Nat.mod_lt _ (by decide)))
  have hzero : (0 : UInt32).toNat = 0 := rfl
  simp only [index, if_true, hfirst, hword, Nat.one_ne_zero, if_false, hzero, hcarry, Nat.add_zero,
    Nat.mul_comm x n, hdiv]
  split <;> rfl

/-! ### The element -/

/-- A pick from the empty list finds nothing and uses no word. -/
@[simp] theorem pick_nil (draws : Draws) : pick ([] : List α) draws = (none, 0) := rfl

/-- A pick from a list that is not empty is that of an index. -/
theorem pick_of_ne_nil {xs : List α} (h : xs ≠ []) (draws : Draws) :
    pick xs draws = (xs[(index xs.length draws).1]?, (index xs.length draws).2) := by
  cases xs with
  | nil => exact absurd rfl h
  | cons x rest => rfl

/-- A pick from a list that is not empty finds an element, with one word or two. -/
theorem exists_pick_eq {xs : List α} (h : xs ≠ []) (draws : Draws) :
    ∃ x used, pick xs draws = (some x, used) ∧ x ∈ xs ∧ (used = 1 ∨ used = 2) := by
  have hlt := index_lt (List.length_pos_iff.2 h) draws
  refine ⟨_, _, (pick_of_ne_nil h draws).trans (Prod.ext (List.getElem?_eq_getElem hlt) rfl),
    List.getElem_mem hlt, ?_⟩
  unfold index
  dsimp only
  split
  · exact .inr rfl
  · exact .inl rfl

/-- What a pick finds is an element of the list. -/
theorem mem_of_pick {xs : List α} {draws : Draws} {x : α} {used : Nat}
    (h : pick xs draws = (some x, used)) : x ∈ xs := by
  cases xs with
  | nil => cases h
  | cons y rest => exact List.mem_of_getElem? (congrArg Prod.fst h)

/-- A pick from a list of images is the image of a pick. -/
theorem pick_map (f : α → β) (xs : List α) (draws : Draws) :
    pick (xs.map f) draws = ((pick xs draws).1.map f, (pick xs draws).2) := by
  cases xs with
  | nil => rfl
  | cons x rest =>
    rw [pick_of_ne_nil (List.cons_ne_nil x rest), pick_of_ne_nil (by simp), List.length_map,
      List.getElem?_map]

/-- Every element of a list is picked by some words. -/
theorem exists_draws_pick_eq {xs : List α} {x : α} (hx : x ∈ xs) (hlen : xs.length ≤ wordCount) :
    ∃ draws used, pick xs draws = (some x, used) := by
  obtain ⟨i, hi, rfl⟩ := List.getElem_of_mem hx
  obtain ⟨draws, hdraws⟩ := exists_index_eq hi hlen
  refine ⟨draws, (index xs.length draws).2, ?_⟩
  rw [pick_of_ne_nil (List.ne_nil_of_mem hx), hdraws, List.getElem?_eq_getElem hi]

end Selection

end Gatehouse
