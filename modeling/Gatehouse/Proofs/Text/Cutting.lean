import Gatehouse.Text.Split
import Mathlib.Data.List.Basic
import Mathlib.Data.List.TakeWhile

/-!
# Cutting texts

A text is cut at the first or at the last occurrence of a separator, and pieces are put together
again with it. What has been cut is the text put together, and what is put together is cut at the
same places as long as the pieces do not contain the separator.

## Main definitions

* `Text.IsCut`: the pieces between the separators of a text.

## Main results

* `Text.cutFirst_eq_some_iff`, `Text.cutFirst_eq_none_iff`: when a text is cut, and where.
* `Text.cutLast_append`: a text is cut at its last separator.
* `Text.mem_joinWith`: the characters of pieces that are put together.
* `Text.joinWith_splitOn`, `Text.splitOn_joinWith`: cutting into pieces and putting pieces together
  are inverses.
* `Text.isCut_iff`: a text has only one list of pieces, and it is cut into these.
* `Text.trim_eq_iff`: what is left of a text that is trimmed.
* `Text.mem_of_mem_toLower`: which characters are the same in lower case.
-/

namespace Gatehouse.Text

variable {sep : Char} {cs before after : List Char}

/-! ### Cutting once -/

theorem cutFirst_append (hbefore : sep ∉ before) (after : List Char) :
    cutFirst sep (before ++ sep :: after) = some (before, after) := by
  induction before with
  | nil => simp [cutFirst]
  | cons c before ih =>
    obtain ⟨hne, hbefore⟩ := not_or.1 (mt List.mem_cons.2 hbefore)
    rw [List.cons_append, cutFirst, if_neg (Ne.symm hne), ih hbefore]
    rfl

theorem cutFirst_eq_none_iff : cutFirst sep cs = none ↔ sep ∉ cs := by
  induction cs with
  | nil => simp [cutFirst]
  | cons c cs ih =>
    rw [cutFirst]
    split
    next h => simp [h]
    next h => simp [ih, Ne.symm h]

/-- A text is cut at its first separator. -/
theorem cutFirst_eq_some_iff :
    cutFirst sep cs = some (before, after) ↔ cs = before ++ sep :: after ∧ sep ∉ before := by
  refine ⟨fun h => ?_, fun ⟨hcs, hbefore⟩ => hcs ▸ cutFirst_append hbefore after⟩
  induction cs generalizing before with
  | nil => cases h
  | cons c cs ih =>
    rw [cutFirst] at h
    split at h
    next hc =>
      cases h
      simp [hc]
    next hc =>
      obtain ⟨⟨before', after'⟩, hcut, heq⟩ := Option.map_eq_some_iff.1 h
      cases heq
      obtain ⟨rfl, hbefore⟩ := ih hcut
      exact ⟨rfl, mt List.mem_cons.1 (not_or.2 ⟨Ne.symm hc, hbefore⟩)⟩

theorem cutLast_of_notMem (h : sep ∉ cs) : cutLast sep cs = none := by
  induction cs with
  | nil => rfl
  | cons c cs ih =>
    obtain ⟨hne, hcs⟩ := not_or.1 (mt List.mem_cons.2 h)
    rw [cutLast, ih hcs]
    exact if_neg (Ne.symm hne)

theorem cutLast_append (before : List Char) (hafter : sep ∉ after) :
    cutLast sep (before ++ sep :: after) = some (before, after) := by
  induction before with
  | nil =>
    rw [List.nil_append, cutLast, cutLast_of_notMem hafter]
    exact if_pos rfl
  | cons c before ih => rw [List.cons_append, cutLast, ih]

/-! ### Putting together -/

theorem joinWith_cons {sep : List Char} {pieces : List (List Char)} (h : pieces ≠ [])
    (piece : List Char) :
    joinWith sep (piece :: pieces) = piece ++ sep ++ joinWith sep pieces := by
  cases pieces with
  | nil => exact absurd rfl h
  | cons next pieces => rfl

/-- The characters of pieces that are put together are those of the separator and the pieces. -/
theorem mem_joinWith {sep : List Char} {pieces : List (List Char)} {c : Char}
    (hc : c ∈ joinWith sep pieces) : c ∈ sep ∨ ∃ piece ∈ pieces, c ∈ piece := by
  induction pieces with
  | nil => cases hc
  | cons piece pieces ih =>
    cases pieces with
    | nil => exact .inr ⟨piece, .head _, hc⟩
    | cons next pieces =>
      rw [joinWith_cons (List.cons_ne_nil _ _), List.mem_append, List.mem_append] at hc
      rcases hc with (hc | hc) | hc
      · exact .inr ⟨piece, .head _, hc⟩
      · exact .inl hc
      · rcases ih hc with hsep | ⟨piece', hpiece', hmem⟩
        · exact .inl hsep
        · exact .inr ⟨piece', .tail _ hpiece', hmem⟩

/-- The pieces of a text, put together, are the text. -/
theorem joinWith_splitOn (sep : Char) (cs : List Char) : joinWith [sep] (splitOn sep cs) = cs := by
  induction cs with
  | nil => rfl
  | cons c cs ih =>
    rw [splitOn]
    cases hpieces : splitOn sep cs with
    | nil => exact absurd hpieces (splitOn_ne_nil sep cs)
    | cons piece pieces =>
      rw [hpieces] at ih
      split
      next hc =>
        rw [joinWith_cons (List.cons_ne_nil _ _), ih, hc]
        rfl
      next =>
        rw [← ih]
        cases pieces <;> rfl

theorem splitOn_of_notMem {sep : Char} {cs : List Char} (h : sep ∉ cs) : splitOn sep cs = [cs] := by
  induction cs with
  | nil => rfl
  | cons c cs ih =>
    obtain ⟨hne, hcs⟩ := not_or.1 (mt List.mem_cons.2 h)
    rw [splitOn, if_neg (Ne.symm hne), ih hcs]

theorem splitOn_append {sep : Char} {piece : List Char} (h : sep ∉ piece) (rest : List Char) :
    splitOn sep (piece ++ sep :: rest) = piece :: splitOn sep rest := by
  induction piece with
  | nil => rw [List.nil_append, splitOn, if_pos rfl]
  | cons c piece ih =>
    obtain ⟨hne, hpiece⟩ := not_or.1 (mt List.mem_cons.2 h)
    rw [List.cons_append, splitOn, if_neg (Ne.symm hne), ih hpiece]

/-- Pieces without the separator are the pieces of the text that they are put together to. -/
theorem splitOn_joinWith {sep : Char} {pieces : List (List Char)} (hne : pieces ≠ [])
    (h : ∀ piece ∈ pieces, sep ∉ piece) : splitOn sep (joinWith [sep] pieces) = pieces := by
  induction pieces with
  | nil => exact absurd rfl hne
  | cons piece pieces ih =>
    obtain ⟨hpiece, hpieces⟩ := List.forall_mem_cons.1 h
    cases pieces with
    | nil => exact splitOn_of_notMem hpiece
    | cons next pieces =>
      have hnext := List.cons_ne_nil next pieces
      rw [joinWith_cons hnext, List.append_assoc, List.singleton_append, splitOn_append hpiece,
        ih hnext hpieces]

/-- The characters of the pieces of a text are characters of the text. -/
theorem mem_of_mem_splitOn {sep c : Char} {piece : List Char} (hpiece : piece ∈ splitOn sep cs)
    (hc : c ∈ piece) : c ∈ cs := by
  induction cs generalizing piece with
  | nil =>
    rw [List.mem_singleton.1 hpiece] at hc
    cases hc
  | cons d cs ih =>
    rw [splitOn] at hpiece
    split at hpiece
    next =>
      rcases List.mem_cons.1 hpiece with rfl | hpiece
      · cases hc
      · exact .tail _ (ih hpiece hc)
    next =>
      split at hpiece
      next =>
        rw [List.mem_singleton.1 hpiece, List.mem_singleton] at hc
        exact hc ▸ .head _
      next first pieces hsplit =>
        rw [hsplit] at ih
        rcases List.mem_cons.1 hpiece with rfl | hpiece
        · rcases List.mem_cons.1 hc with rfl | hc
          · exact .head _
          · exact .tail _ (ih (.head _) hc)
        · exact .tail _ (ih (.tail _ hpiece) hc)

/-- The pieces of a text do not contain the separator. -/
theorem notMem_of_mem_splitOn {piece : List Char} (h : piece ∈ splitOn sep cs) : sep ∉ piece := by
  induction cs generalizing piece with
  | nil =>
    rw [List.mem_singleton.1 h]
    exact List.not_mem_nil
  | cons c cs ih =>
    rw [splitOn] at h
    split at h
    next =>
      rcases List.mem_cons.1 h with rfl | h
      · exact List.not_mem_nil
      · exact ih h
    next hc =>
      split at h
      next hsplit => exact absurd hsplit (splitOn_ne_nil sep cs)
      next first pieces hsplit =>
        rw [hsplit] at ih
        rcases List.mem_cons.1 h with rfl | h
        · exact mt List.mem_cons.1 (not_or.2 ⟨Ne.symm hc, ih (.head _)⟩)
        · exact ih (.tail _ h)

/-- Some pieces are those between the separators of a text: put together again they are the text,
and none of them contains the separator. -/
structure IsCut (sep : Char) (cs : List Char) (pieces : List (List Char)) : Prop where
  ne_nil : pieces ≠ []
  notMem : ∀ piece ∈ pieces, sep ∉ piece
  joined : joinWith [sep] pieces = cs

/-- A text is cut into the pieces between its separators. -/
theorem isCut_iff {pieces : List (List Char)} : IsCut sep cs pieces ↔ splitOn sep cs = pieces := by
  constructor
  · rintro ⟨hne, hpieces, rfl⟩
    exact splitOn_joinWith hne hpieces
  · rintro rfl
    exact ⟨splitOn_ne_nil sep cs, fun _ => notMem_of_mem_splitOn, joinWith_splitOn sep cs⟩

/-! ### Trimming -/

section Trim

variable {p : Char → Bool} {text : List Char}

/-- A trimmed text has been between characters of the class. -/
theorem exists_of_trim (p : Char → Bool) (cs : List Char) :
    ∃ left right, cs = left ++ trim p cs ++ right ∧ (∀ c ∈ left, p c = true) ∧
      ∀ c ∈ right, p c = true := by
  refine ⟨cs.takeWhile p, ((cs.dropWhile p).reverse.takeWhile p).reverse, ?_,
    fun c => List.mem_takeWhile_imp, fun c hc => List.mem_takeWhile_imp (List.mem_reverse.1 hc)⟩
  have hright : trim p cs ++ ((cs.dropWhile p).reverse.takeWhile p).reverse = cs.dropWhile p := by
    rw [trim, trimRight, ← List.reverse_append, List.takeWhile_append_dropWhile,
      List.reverse_reverse]
  rw [List.append_assoc, hright, List.takeWhile_append_dropWhile]

/-- A text that is free of a class is what is left if characters of the class are around it. -/
theorem trim_eq_iff (htext : ∀ c ∈ text, p c = false) :
    trim p cs = text ↔ ∃ left right, cs = left ++ text ++ right ∧ (∀ c ∈ left, p c = true) ∧
      ∀ c ∈ right, p c = true := by
  refine ⟨fun h => h ▸ exists_of_trim p cs, fun ⟨left, right, hcs, hleft, hright⟩ => ?_⟩
  have hreverse : (right.reverse ++ text.reverse).dropWhile p = text.reverse := by
    rw [List.dropWhile_append_of_pos fun c hc => hright c (List.mem_reverse.1 hc)]
    exact List.dropWhile_eq_self_iff.2 fun hpos =>
      Bool.not_eq_true _ ▸ htext _ (List.mem_reverse.1 (List.getElem_mem hpos))
  rw [hcs, trim, trimRight, List.append_assoc, List.dropWhile_append_of_pos hleft]
  cases text with
  | nil => rw [List.nil_append, List.dropWhile_eq_nil_iff.2 hright]; rfl
  | cons c text =>
    rw [List.cons_append, List.dropWhile_cons_of_neg (by simp [htext c (.head _)]),
      ← List.cons_append, List.reverse_append, hreverse, List.reverse_reverse]

end Trim

/-! ### Lower case -/

theorem isLower_toLower_of_isUpper {c : Char} (h : c.isUpper = true) :
    c.toLower.isLower = true := by
  obtain ⟨hlow, hhigh⟩ : 65 ≤ c.val ∧ c.val ≤ 90 := of_decide_eq_true h
  have hlower : c.toLower.val = c.val + 32 := congrArg Char.val (dif_pos ⟨hlow, hhigh⟩)
  have hrange : 97 ≤ c.toLower.val ∧ c.toLower.val ≤ 122 := by grind
  exact Bool.and_eq_true_iff.2 ⟨decide_eq_true hrange.1, decide_eq_true hrange.2⟩

theorem toLower_of_not_isUpper {c : Char} (h : ¬ c.isUpper = true) : c.toLower = c :=
  dif_neg fun hval => h (decide_eq_true hval)

/-- Lower case brings in nothing but letters. -/
theorem mem_of_mem_toLower {c : Char} (hc : c.isLower = false) (h : c ∈ toLower cs) : c ∈ cs := by
  obtain ⟨d, hd, rfl⟩ := List.mem_map.1 h
  have hupper : ¬ d.isUpper = true := fun hupper => by
    rw [isLower_toLower_of_isUpper hupper] at hc
    cases hc
  rwa [toLower_of_not_isUpper hupper]

end Gatehouse.Text
