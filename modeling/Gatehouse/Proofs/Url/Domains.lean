import Gatehouse.Proofs.Text.Cutting
import Gatehouse.Url.Domain

/-!
# Domains in canonical form

A domain of ASCII characters that are not in upper case, none of which is forbidden, is in its
canonical form if no label is marked as one in Punycode.

## Main definitions

* `Domain.IsPlain`: a text of characters that stand for themselves in domains.
* `Domain.IsMarked`: a label is one in Punycode.
* `Domain.IsOrdinary`: a plain text without such labels.

## Main results

* `Domain.toAscii?_of_isOrdinary`: an ordinary domain is in canonical form.
-/

namespace Gatehouse.Domain

/-- A character stands for itself in a domain: it is ASCII, not in upper case, and not
forbidden. -/
def isPlainChar (c : Char) : Bool := c.toNat < 0x80 && c.toLower == c && !isForbidden c

/-- All characters stand for themselves in a domain. -/
def IsPlain (cs : List Char) : Prop := ∀ c ∈ cs, isPlainChar c = true

/-- A label is marked as one in Punycode. -/
def IsMarked (label : List Char) : Prop := (Text.dropPrefix? "xn--".toList label).isSome = true

instance (cs : List Char) : Decidable (IsPlain cs) :=
  List.decidableBAll (fun c => isPlainChar c = true) cs

instance (label : List Char) : Decidable (IsMarked label) := inferInstanceAs (Decidable (_ = _))

/-- All characters stand for themselves, and no label is in Punycode. -/
structure IsOrdinary (cs : List Char) : Prop where
  plain : IsPlain cs
  unmarked : ∀ label ∈ Text.splitOn '.' cs, ¬ IsMarked label

theorem isPlainChar_iff {c : Char} :
    isPlainChar c = true ↔ c.toNat < 0x80 ∧ c.toLower = c ∧ isForbidden c = false := by
  simp [isPlainChar, and_assoc]

/-- Plain characters are their own mapping. -/
theorem mapText?_of_isPlain {cs : List Char} (h : IsPlain cs) : mapText? cs = some cs := by
  induction cs with
  | nil => rfl
  | cons c cs ih =>
    obtain ⟨hc, hcs⟩ := List.forall_mem_cons.1 h
    obtain ⟨hascii, hlower, -⟩ := isPlainChar_iff.1 hc
    rw [mapText?, mapChar?, if_pos hascii, hlower, ih hcs]
    rfl

theorem all_ascii_of_isPlain {cs : List Char} (h : IsPlain cs) :
    cs.all (·.toNat < 0x80) = true :=
  List.all_eq_true.2 fun c hc => decide_eq_true (isPlainChar_iff.1 (h c hc)).1

/-- Labels of plain characters that are not in Punycode are the same in both forms. -/
theorem labels?_of_isPlain {texts : List (List Char)} (hplain : ∀ text ∈ texts, IsPlain text)
    (hmarked : ∀ text ∈ texts, ¬ IsMarked text) :
    labels? texts = some (texts.map fun text => ⟨text, text⟩) := by
  induction texts with
  | nil => rfl
  | cons text texts ih =>
    obtain ⟨htext, htexts⟩ := List.forall_mem_cons.1 hplain
    obtain ⟨hown, hothers⟩ := List.forall_mem_cons.1 hmarked
    have hlabel : Label.ofMapped? text = some ⟨text, text⟩ := by
      rw [Label.ofMapped?, Option.not_isSome_iff_eq_none.1 hown]
      exact if_pos (all_ascii_of_isPlain htext)
    rw [labels?, hlabel, ih htexts hothers]
    rfl

/-! ### Directions -/

/-- Characters that are written from right to left, or are digits among them, are not ASCII. -/
theorem le_first_of_mem {r : Normalization.Run}
    (hr : r ∈ runsOf rightRows ∨ r ∈ runsOf arabicNumberRows) : 0x80 ≤ r.first := by
  have hrows : ∀ r ∈ runsOf rightRows ++ runsOf arabicNumberRows, 0x80 ≤ r.first := by
    decide +kernel
  exact hrows r (List.mem_append.2 hr)

theorem any_has_of_ascii {c : Char} (hc : c.toNat < 0x80) {runs : List Normalization.Run}
    (hruns : ∀ r ∈ runs, 0x80 ≤ r.first) : runs.any (·.has c) = false := by
  refine List.any_eq_false.2 fun r hr hhas => ?_
  have hfirst := (Bool.and_eq_true_iff.1 hhas).1
  have hlow := hruns r hr
  simp only [decide_eq_true_eq] at hfirst
  omega

/-- No ASCII character is written from right to left. -/
theorem directionOf_of_ascii {c : Char} (hc : c.toNat < 0x80) :
    (directionOf c == .right || directionOf c == .arabicNumber) = false := by
  have hright := any_has_of_ascii hc fun r hr => le_first_of_mem (.inl hr)
  have harabic := any_has_of_ascii hc fun r hr => le_first_of_mem (.inr hr)
  unfold directionOf directionRuns
  rw [List.find?_cons_of_neg (by simp [hright]), List.find?_cons_of_neg (by simp [harabic])]
  split
  next d hfind =>
    have hmem := List.mem_of_find?_eq_some hfind
    simp only [List.mem_cons, Prod.mk.injEq, List.not_mem_nil, or_false] at hmem
    rcases hmem with ⟨-, rfl⟩ | ⟨-, rfl⟩ | ⟨-, rfl⟩ <;> rfl
  next => rfl

/-- ASCII labels are readable together. -/
theorem directionsAllowed_of_isPlain {labels : List (List Char)}
    (h : ∀ label ∈ labels, IsPlain label) : directionsAllowed labels = true := by
  have hmixed : (labels.map (·.map directionOf)).any
      (·.any fun d => d == .right || d == .arabicNumber) = false := by
    refine List.any_eq_false.2 fun ds hds => ?_
    obtain ⟨label, hlabel, rfl⟩ := List.mem_map.1 hds
    rw [Bool.not_eq_true, List.any_eq_false]
    intro d hd
    obtain ⟨c, hc, rfl⟩ := List.mem_map.1 hd
    rw [directionOf_of_ascii (isPlainChar_iff.1 (h label hlabel c hc)).1]
    exact Bool.false_ne_true
  unfold directionsAllowed
  dsimp only
  rw [hmixed]
  rfl

/-! ### Canonical form -/

/-- An ordinary domain is in canonical form. -/
theorem toAscii?_of_isOrdinary {cs : List Char} (h : IsOrdinary cs) : toAscii? cs = some cs := by
  have hlabels : ∀ label ∈ Text.splitOn '.' cs, IsPlain label :=
    fun label hlabel c hc => h.plain c (Text.mem_of_mem_splitOn hlabel hc)
  have hcompose : Normalization.compose cs = cs := if_pos (all_ascii_of_isPlain h.plain)
  have hforbidden : cs.any isForbidden = false :=
    List.any_eq_false.2 fun c hc => by simp [(isPlainChar_iff.1 (h.plain c hc)).2.2]
  have hjoin : ∀ texts : List (List Char),
      (texts.map fun text => Label.mk text text).map Label.ascii = texts ∧
        (texts.map fun text => Label.mk text text).map Label.shown = texts := by
    intro texts
    simp [Function.comp_def]
  obtain ⟨hascii, hshown⟩ := hjoin (Text.splitOn '.' cs)
  rw [toAscii?, mapText?_of_isPlain h.plain, Option.bind_some, hcompose,
    labels?_of_isPlain hlabels h.unmarked, Option.bind_some]
  simp only [hascii, hshown, Text.joinWith_splitOn, hforbidden,
    directionsAllowed_of_isPlain hlabels]
  rfl

/-- What is in canonical form has none of the forbidden characters. -/
theorem isForbidden_of_toAscii? {cs domain : List Char} (h : toAscii? cs = some domain) :
    ∀ c ∈ domain, isForbidden c = false := by
  obtain ⟨mapped, -, h⟩ := Option.bind_eq_some_iff.1 h
  obtain ⟨labels, -, h⟩ := Option.bind_eq_some_iff.1 h
  dsimp only at h
  split at h
  next => cases h
  next hallowed =>
    cases h
    rw [Bool.not_eq_true, Bool.or_eq_false_iff] at hallowed
    exact fun c hc => Bool.not_eq_true _ ▸ List.any_eq_false.1 hallowed.1 c hc

end Gatehouse.Domain
