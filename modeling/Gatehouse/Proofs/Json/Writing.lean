import Gatehouse.Proofs.Json.Reading

/-!
# What is written determines what was written

Values are written so that each of them ends where it ends: no text of a value is the start of the
text of another one. So a document, and any part of a document, is the text of one value only.

## Main results

* `Json.writeText_append_inj`: a written string determines the string and what follows it.
* `Json.Tree.write_append_inj`: a written value determines the value and what follows it.
* `Json.Tree.compact_injective`: different values have different documents.
-/

namespace Gatehouse.Json

/-- What is read from the front of a text is determined by the text, and so is where it ends. -/
theorem Reads.unique {α : Type} {read : Reader α} {cs cs' rest rest' : List Char} {x x' : α}
    (h : Reads read cs x) (h' : Reads read cs' x') (heq : cs ++ rest = cs' ++ rest') :
    x = x' ∧ rest = rest' := by
  obtain ⟨mark, hread⟩ := h rest ⟨1, 0⟩
  obtain ⟨mark', hread'⟩ := h' rest' ⟨1, 0⟩
  rw [heq, hread'] at hread
  cases hread
  exact ⟨rfl, rfl⟩

theorem writeText_append_inj {s s' : String} {rest rest' : List Char}
    (h : writeText s ++ rest = writeText s' ++ rest') : s = s' ∧ rest = rest' :=
  (reads_text s).unique (reads_text s') h

mutual

theorem Tree.write_append_inj : (t t' : Tree) → {rest rest' : List Char} →
    t.write ++ rest = t'.write ++ rest' → t = t' ∧ rest = rest'
  | .string s, t', rest, rest', h => by
    cases t' with
    | string s' =>
      obtain ⟨rfl, hrest⟩ := writeText_append_inj (by simpa only [Tree.write] using h)
      exact ⟨rfl, hrest⟩
    | array | object => simp [Tree.write, writeText] at h
  | .array elements, t', rest, rest', h => by
    cases t' with
    | array elements' =>
      simp only [Tree.write, List.cons_append, List.append_assoc, List.cons.injEq, true_and,
        List.nil_append] at h
      obtain ⟨rfl, hrest⟩ := writeElements_append_inj elements elements' h
      exact ⟨rfl, hrest⟩
    | string | object => simp [Tree.write, writeText] at h
  | .object members, t', rest, rest', h => by
    cases t' with
    | object members' =>
      simp only [Tree.write, List.cons_append, List.append_assoc, List.cons.injEq, true_and,
        List.nil_append] at h
      obtain ⟨rfl, hrest⟩ := writeMembers_append_inj members members' h
      exact ⟨rfl, hrest⟩
    | string | array => simp [Tree.write, writeText] at h

theorem writeElements_append_inj : (xs xs' : List Tree) → {rest rest' : List Char} →
    writeElements xs ++ ']' :: rest = writeElements xs' ++ ']' :: rest' → xs = xs' ∧ rest = rest'
  | [], [], rest, rest', h => by simpa [writeElements] using h
  | [], x :: xs', rest, rest', h => by
    obtain ⟨c, cs, hwrite, hc⟩ := x.exists_write
    have hclosing := ne_closing_of_isOpening hc
    simp [writeElements, writeElements_cons, hwrite, hclosing.symm] at h
  | x :: xs, [], rest, rest', h => by
    obtain ⟨c, cs, hwrite, hc⟩ := x.exists_write
    have hclosing := ne_closing_of_isOpening hc
    simp [writeElements, writeElements_cons, hwrite, hclosing] at h
  | x :: xs, x' :: xs', rest, rest', h => by
    rw [writeElements_cons, writeElements_cons, List.append_assoc, List.append_assoc] at h
    obtain ⟨rfl, hbehind⟩ := Tree.write_append_inj x x' h
    cases xs with
    | nil =>
      cases xs' with
      | nil => simpa [writeBehindElement, writeElements] using hbehind
      | cons => simp [writeBehindElement, writeElements] at hbehind
    | cons y ys =>
      cases xs' with
      | nil => simp [writeBehindElement, writeElements] at hbehind
      | cons y' ys' =>
        simp only [writeBehindElement, reduceCtorEq, Bool.false_eq_true, or_self, if_false,
          List.cons_append, List.cons.injEq, true_and] at hbehind
        obtain ⟨heq, hrest⟩ := writeElements_append_inj (y :: ys) (y' :: ys') hbehind
        exact ⟨congrArg (x :: ·) heq, hrest⟩

theorem writeMembers_append_inj : (ms ms' : List (String × Tree)) → {rest rest' : List Char} →
    writeMembers ms ++ '\x7d' :: rest = writeMembers ms' ++ '\x7d' :: rest' →
      ms = ms' ∧ rest = rest'
  | [], [], rest, rest', h => by simpa [writeMembers] using h
  | [], (k, x) :: ms', rest, rest', h => by
    simp [writeMembers, writeMembers_cons, writeText] at h
  | (k, x) :: ms, [], rest, rest', h => by
    simp [writeMembers, writeMembers_cons, writeText] at h
  | (k, x) :: ms, (k', x') :: ms', rest, rest', h => by
    rw [writeMembers_cons, writeMembers_cons, List.append_assoc, List.append_assoc] at h
    obtain ⟨rfl, hvalue⟩ := writeText_append_inj h
    rw [List.cons_append, List.cons_append, List.cons.injEq, List.append_assoc,
      List.append_assoc] at hvalue
    obtain ⟨rfl, hbehind⟩ := Tree.write_append_inj x x' hvalue.2
    cases ms with
    | nil =>
      cases ms' with
      | nil => simpa [writeBehind, writeMembers] using hbehind
      | cons => simp [writeBehind, writeMembers] at hbehind
    | cons y ys =>
      cases ms' with
      | nil => simp [writeBehind, writeMembers] at hbehind
      | cons y' ys' =>
        simp only [writeBehind, reduceCtorEq, Bool.false_eq_true, or_self, if_false,
          List.cons_append, List.cons.injEq, true_and] at hbehind
        obtain ⟨heq, hrest⟩ := writeMembers_append_inj (y :: ys) (y' :: ys') hbehind
        exact ⟨congrArg ((k, x) :: ·) heq, hrest⟩

end

/-- Different values have different documents. -/
theorem Tree.compact_injective : Function.Injective Tree.compact := by
  intro t t' h
  have hwrite : t.write ++ [] = t'.write ++ [] := by
    rw [String.ofList_injective h]
  exact (t.write_append_inj t' hwrite).1

end Gatehouse.Json
