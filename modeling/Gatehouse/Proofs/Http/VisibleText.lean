import Gatehouse.Http.Header
import Gatehouse.Tls.ServerName

/-!
# Texts that are field values

A text is sent in a field only if its bytes are a field value. Texts of visible ASCII characters are
values as they stand, and among them are numbers, addresses, and whatever names a server.

## Main definitions

* `Text.IsVisible` : all characters are visible ASCII ones.

## Main results

* `HeaderValue.isValid_of_isVisible` : a visible text is a value.
* `Text.isVisible_toDigits`, `Ip.isVisible_text` : numbers and addresses are visible.
* `Ip.isVisible_of_parse?` : so is every text that an address is read from.
* `ServerName.isVisible_of_parse` : so is every text that names a server.
-/

namespace Gatehouse

/-! ### Visible texts -/

namespace Text

/-- Whether a character is a visible ASCII one. -/
def isVisibleChar (c : Char) : Bool := 0x21 ≤ c.toNat && c.toNat ≤ 0x7E

/-- All characters are visible ASCII ones. -/
def IsVisible (cs : List Char) : Prop := ∀ c ∈ cs, isVisibleChar c = true

instance (cs : List Char) : Decidable (IsVisible cs) :=
  List.decidableBAll (fun c => isVisibleChar c = true) cs

theorem isVisibleChar_iff {c : Char} :
    isVisibleChar c = true ↔ 0x21 ≤ c.toNat ∧ c.toNat ≤ 0x7E := by
  rw [isVisibleChar, Bool.and_eq_true, decide_eq_true_eq, decide_eq_true_eq]

/-- A character between two visible ones is visible. -/
theorem isVisibleChar_of_le (least greatest : Char) {c : Char} (hleast : isVisibleChar least = true)
    (hlow : least ≤ c) (hhigh : c ≤ greatest) (hgreatest : isVisibleChar greatest = true) :
    isVisibleChar c = true :=
  isVisibleChar_iff.2 ⟨Nat.le_trans (isVisibleChar_iff.1 hleast).1 (UInt32.le_iff_toNat_le.1 hlow),
    Nat.le_trans (UInt32.le_iff_toNat_le.1 hhigh) (isVisibleChar_iff.1 hgreatest).2⟩

@[simp] theorem isVisible_nil : IsVisible [] := by
  intro c hc
  cases hc

@[simp] theorem isVisible_cons {c : Char} {cs : List Char} :
    IsVisible (c :: cs) ↔ isVisibleChar c = true ∧ IsVisible cs :=
  List.forall_mem_cons

@[simp] theorem isVisible_append {xs ys : List Char} :
    IsVisible (xs ++ ys) ↔ IsVisible xs ∧ IsVisible ys :=
  List.forall_mem_append

theorem isVisible_joinWith {sep : List Char} {pieces : List (List Char)} (hsep : IsVisible sep)
    (hpieces : ∀ piece ∈ pieces, IsVisible piece) : IsVisible (joinWith sep pieces) := by
  induction pieces with
  | nil => exact isVisible_nil
  | cons piece pieces ih =>
    obtain ⟨hpiece, hrest⟩ := List.forall_mem_cons.1 hpieces
    cases pieces with
    | nil => exact hpiece
    | cons next pieces =>
      rw [joinWith, isVisible_append, isVisible_append]
      · exact ⟨⟨hpiece, hsep⟩, ih hrest⟩
      · exact List.cons_ne_nil next pieces

/-- Whatever stands in a text is the separator or stands in one of the pieces. -/
theorem eq_or_mem_splitOn (sep : Char) {c : Char} {cs : List Char} (hc : c ∈ cs) :
    c = sep ∨ ∃ piece ∈ splitOn sep cs, c ∈ piece := by
  induction cs with
  | nil => cases hc
  | cons first cs ih =>
    rw [splitOn]
    split
    next hfirst =>
      rcases List.mem_cons.1 hc with rfl | hc
      · exact .inl hfirst
      · rcases ih hc with hsep | ⟨piece, hpiece, hmem⟩
        · exact .inl hsep
        · exact .inr ⟨piece, .tail _ hpiece, hmem⟩
    next =>
      split
      next hsplit => exact absurd hsplit (splitOn_ne_nil sep cs)
      next piece pieces hsplit =>
        rcases List.mem_cons.1 hc with rfl | hc
        · exact .inr ⟨_, .head _, .head _⟩
        · rcases ih hc with hsep | ⟨piece', hpiece', hmem⟩
          · exact .inl hsep
          · rw [hsplit] at hpiece'
            rcases List.mem_cons.1 hpiece' with rfl | hpiece'
            · exact .inr ⟨_, .head _, .tail _ hmem⟩
            · exact .inr ⟨piece', .tail _ hpiece', hmem⟩

theorem isVisibleChar_digitChar (n : Nat) : isVisibleChar (Nat.digitChar n) = true := by
  have hsmall : ∀ d < 16, isVisibleChar (Nat.digitChar d) = true := by decide
  by_cases hn : n < 16
  · exact hsmall n hn
  · have hstar : Nat.digitChar n = '*' := by
      rw [Nat.digitChar]
      repeat rw [if_neg (by omega)]
    rw [hstar]
    rfl

theorem isVisible_toDigitsCore (base fuel n : Nat) {cs : List Char} (hcs : IsVisible cs) :
    IsVisible (Nat.toDigitsCore base fuel n cs) := by
  induction fuel generalizing n cs with
  | zero => exact hcs
  | succ fuel ih =>
    have hnext : IsVisible ((n % base).digitChar :: cs) :=
      isVisible_cons.2 ⟨isVisibleChar_digitChar _, hcs⟩
    rw [Nat.toDigitsCore]
    split
    · exact hnext
    · exact ih _ hnext

/-- Numbers are written in visible characters, whatever their base. -/
theorem isVisible_toDigits (base n : Nat) : IsVisible (Nat.toDigits base n) :=
  isVisible_toDigitsCore base (n + 1) n isVisible_nil

theorem isVisible_toString (n : Nat) : IsVisible (toString n).toList := by
  rw [show (toString n).toList = Nat.toDigits 10 n from String.toList_ofList]
  exact isVisible_toDigits 10 n

end Text

namespace HeaderValue

theorem isValidByte_of_isVisibleChar {c : Char} (hc : Text.isVisibleChar c = true) :
    ∀ b ∈ Utf8.encodeChar c, isValidByte b = true := by
  obtain ⟨hlow, hhigh⟩ := Text.isVisibleChar_iff.1 hc
  have hencode : Utf8.encodeChar c = [UInt8.ofNat c.toNat] := by
    rw [Utf8.encodeChar]
    exact if_pos (Nat.lt_succ_of_le (Nat.le_succ_of_le hhigh))
  have htoNat : (UInt8.ofNat c.toNat).toNat = c.toNat :=
    UInt8.toNat_ofNat_of_lt' (Nat.lt_of_le_of_lt hhigh (by decide))
  have hspace : 0x20 ≤ UInt8.ofNat c.toNat := by
    rw [UInt8.le_iff_toNat_le, htoNat]
    exact Nat.le_of_succ_le hlow
  have hdelete : UInt8.ofNat c.toNat ≠ 0x7F := by
    rw [ne_eq, ← UInt8.toNat_inj, htoNat]
    exact Nat.ne_of_lt (Nat.lt_succ_of_le hhigh)
  rw [hencode, List.forall_mem_singleton]
  simp [isValidByte, hspace, hdelete]

/-- A visible text is a value as it stands. -/
theorem isValid_of_isVisible {text : String} (h : Text.IsVisible text.toList) :
    isValid (Bytes.ofText text) = true := by
  rw [isValid, List.all_eq_true]
  intro b hb
  obtain ⟨c, hc, hb⟩ := List.mem_flatMap.1 hb
  exact isValidByte_of_isVisibleChar (h c hc) b hb

theorem ofText?_of_isVisible {text : String} (h : Text.IsVisible text.toList) :
    ofText? text = some (Bytes.ofText text) :=
  if_pos (isValid_of_isVisible h)

end HeaderValue

/-! ### Addresses as they are written -/

theorem Ipv4.isVisible_text (x : Ipv4) : Text.IsVisible x.text := by
  refine Text.isVisible_joinWith (by decide) fun piece hpiece => ?_
  obtain ⟨n, -, rfl⟩ := List.mem_map.1 hpiece
  exact Text.isVisible_toDigits 10 n.toNat

namespace Ipv6

theorem isVisible_joinGroups (groups : List Nat) : Text.IsVisible (joinGroups groups) := by
  refine Text.isVisible_joinWith (by decide) fun piece hpiece => ?_
  obtain ⟨n, -, rfl⟩ := List.mem_map.1 hpiece
  exact Text.isVisible_toDigits 16 n

theorem isVisible_groupsText (x : Ipv6) : Text.IsVisible x.groupsText := by
  unfold groupsText
  dsimp only
  split
  · rw [Text.isVisible_append, Text.isVisible_append]
    exact ⟨⟨isVisible_joinGroups _, by decide⟩, isVisible_joinGroups _⟩
  · exact isVisible_joinGroups _

theorem isVisible_text (x : Ipv6) : Text.IsVisible x.text := by
  unfold text
  split
  next v4 _ => exact Text.isVisible_append.2 ⟨by decide, v4.isVisible_text⟩
  next => exact isVisible_groupsText x

end Ipv6

/-- Addresses are written in visible characters. -/
theorem Ip.isVisible_text (x : Ip) : Text.IsVisible x.text := by
  cases x with
  | v4 x => exact x.isVisible_text
  | v6 x => exact x.isVisible_text

/-! ### Addresses as they are read -/

section Reading

variable {cs rest : List Char}

theorem isVisibleChar_of_hexDigit? {c : Char} (h : (Numeral.hexDigit? c).isSome = true) :
    Text.isVisibleChar c = true := by
  unfold Numeral.hexDigit? at h
  split at h
  next hc => exact Text.isVisibleChar_of_le '0' '9' (by decide) hc.1 hc.2 (by decide)
  next =>
    split at h
    next hc => exact Text.isVisibleChar_of_le 'a' 'f' (by decide) hc.1 hc.2 (by decide)
    next =>
      split at h
      next hc => exact Text.isVisibleChar_of_le 'A' 'F' (by decide) hc.1 hc.2 (by decide)
      next => cases h

/-- What a number is read from is visible, if what follows it is. -/
theorem isVisible_of_readNumber {base : Nat} {most : Option Nat} {zeros : Bool} {bound n : Nat}
    (h : readNumber base most zeros bound cs = some (n, rest)) (hrest : Text.IsVisible rest) :
    Text.IsVisible cs := by
  unfold readNumber at h
  dsimp only at h
  split at h
  next => cases h
  next =>
    split at h
    next => cases h
    next =>
      split at h
      next => cases h
      next =>
        split at h
        next =>
          rw [Option.some.injEq, Prod.mk.injEq] at h
          obtain ⟨-, rfl⟩ := h
          rw [← List.takeWhile_append_dropWhile (l := cs), Text.isVisible_append]
          refine ⟨fun c hc => isVisibleChar_of_hexDigit? ?_, hrest⟩
          have hdigit := List.all_eq_true.1 List.all_takeWhile c hc
          split at hdigit
          next hsome => exact Option.isSome_iff_exists.2 ⟨_, hsome⟩
          next => cases hdigit
        next => cases h

theorem isVisible_of_readChar {c : Char} (hc : Text.isVisibleChar c = true)
    (h : readChar c cs = some rest) (hrest : Text.IsVisible rest) : Text.IsVisible cs := by
  cases cs with
  | nil => exact Text.isVisible_nil
  | cons d cs =>
    rw [readChar] at h
    split at h
    next hd =>
      cases h
      exact Text.isVisible_cons.2 ⟨hd ▸ hc, hrest⟩
    next => cases h

namespace Ipv4

theorem isVisible_of_readOctet {n : UInt8} (h : readOctet cs = some (n, rest))
    (hrest : Text.IsVisible rest) : Text.IsVisible cs := by
  obtain ⟨⟨value, rest'⟩, hread, heq⟩ := Option.map_eq_some_iff.1 h
  cases heq
  exact isVisible_of_readNumber hread hrest

theorem isVisible_of_read {x : Ipv4} (h : read cs = some (x, rest))
    (hrest : Text.IsVisible rest) : Text.IsVisible cs := by
  have hpoint : Text.isVisibleChar '.' = true := by decide
  obtain ⟨⟨a, cs₁⟩, ha, h⟩ := Option.bind_eq_some_iff.1 h
  obtain ⟨cs₁', ha', h⟩ := Option.bind_eq_some_iff.1 h
  obtain ⟨⟨b, cs₂⟩, hb, h⟩ := Option.bind_eq_some_iff.1 h
  obtain ⟨cs₂', hb', h⟩ := Option.bind_eq_some_iff.1 h
  obtain ⟨⟨c, cs₃⟩, hc, h⟩ := Option.bind_eq_some_iff.1 h
  obtain ⟨cs₃', hc', h⟩ := Option.bind_eq_some_iff.1 h
  obtain ⟨⟨d, cs₄⟩, hd, h⟩ := Option.bind_eq_some_iff.1 h
  cases h
  have h₃ := isVisible_of_readChar hpoint hc' (isVisible_of_readOctet hd hrest)
  have h₂ := isVisible_of_readChar hpoint hb' (isVisible_of_readOctet hc h₃)
  have h₁ := isVisible_of_readChar hpoint ha' (isVisible_of_readOctet hb h₂)
  exact isVisible_of_readOctet ha h₁

end Ipv4

namespace Ipv6

theorem isVisible_of_readSeparator {i : Nat} (h : readSeparator i cs = some rest)
    (hrest : Text.IsVisible rest) : Text.IsVisible cs := by
  unfold readSeparator at h
  split at h
  next =>
    cases h
    exact hrest
  next => exact isVisible_of_readChar (by decide) h hrest

/-- What groups are read from is visible, if what follows them is. -/
theorem isVisible_of_readGroups (room i : Nat) (cs : List Char)
    (hrest : Text.IsVisible (readGroups room i cs).2.2) : Text.IsVisible cs := by
  induction room generalizing i cs with
  | zero => exact hrest
  | succ room ih =>
    rw [readGroups] at hrest
    dsimp only at hrest
    split at hrest
    next v4 rest hdotted =>
      split at hdotted
      next => cases hdotted
      next =>
        obtain ⟨behind, hseparator, hread⟩ := Option.bind_eq_some_iff.1 hdotted
        exact isVisible_of_readSeparator hseparator (Ipv4.isVisible_of_read hread hrest)
    next =>
      split at hrest
      next => exact hrest
      next g rest hgroup =>
        obtain ⟨behind, hseparator, hread⟩ := Option.bind_eq_some_iff.1 hgroup
        exact isVisible_of_readSeparator hseparator
          (isVisible_of_readNumber hread (ih (i + 1) rest hrest))

theorem isVisible_of_read {x : Ipv6} (h : read cs = some (x, rest))
    (hrest : Text.IsVisible rest) : Text.IsVisible cs := by
  have hcolon : Text.isVisibleChar ':' = true := by decide
  unfold read at h
  dsimp only at h
  refine isVisible_of_readGroups 8 0 cs ?_
  split at h
  next =>
    obtain ⟨_, -, heq⟩ := Option.map_eq_some_iff.1 h
    cases heq
    exact hrest
  next =>
    split at h
    next => cases h
    next =>
      obtain ⟨cs₁, h₁, h⟩ := Option.bind_eq_some_iff.1 h
      obtain ⟨cs₂, h₂, h⟩ := Option.bind_eq_some_iff.1 h
      obtain ⟨_, -, heq⟩ := Option.map_eq_some_iff.1 h
      cases heq
      exact isVisible_of_readChar hcolon h₁
        (isVisible_of_readChar hcolon h₂ (isVisible_of_readGroups _ _ cs₂ hrest))

end Ipv6

/-- Addresses are read from visible texts only. -/
theorem Ip.isVisible_of_parse? {x : Ip} (h : Ip.parse? cs = some x) : Text.IsVisible cs := by
  unfold Ip.parse? at h
  split at h
  next v4 hv4 =>
    unfold Ipv4.parse? at hv4
    split at hv4
    next hread => exact Ipv4.isVisible_of_read hread Text.isVisible_nil
    next => cases hv4
  next =>
    obtain ⟨v6, hv6, -⟩ := Option.map_eq_some_iff.1 h
    unfold Ipv6.parse? at hv6
    split at hv6
    next hread => exact Ipv6.isVisible_of_read hread Text.isVisible_nil
    next => cases hv6

end Reading

/-! ### Names of servers -/

namespace ServerName

theorem isVisibleChar_of_isLabelChar {c : Char} (h : isLabelChar c = true) :
    Text.isVisibleChar c = true := by
  rw [isLabelChar, Bool.or_eq_true, Bool.or_eq_true, beq_iff_eq, beq_iff_eq] at h
  rcases h with (halnum | rfl) | rfl
  · rcases Bool.or_eq_true_iff.1 halnum with hletter | hdigit
    · rcases Bool.or_eq_true_iff.1 hletter with hupper | hlower
      · obtain ⟨hlow, hhigh⟩ : 'A' ≤ c ∧ c ≤ 'Z' := of_decide_eq_true hupper
        exact Text.isVisibleChar_of_le 'A' 'Z' (by decide) hlow hhigh (by decide)
      · obtain ⟨hlow, hhigh⟩ := Bool.and_eq_true_iff.1 hlower
        exact Text.isVisibleChar_of_le 'a' 'z' (by decide) (of_decide_eq_true hlow)
          (of_decide_eq_true hhigh) (by decide)
    · obtain ⟨hlow, hhigh⟩ := Bool.and_eq_true_iff.1 hdigit
      exact Text.isVisibleChar_of_le '0' '9' (by decide) (of_decide_eq_true hlow)
        (of_decide_eq_true hhigh) (by decide)
  · decide
  · decide

/-- The pieces of a name are labels, apart from an empty one behind a final point. -/
theorem mem_labels_of_mem_splitOn {cs piece : List Char} (hpiece : piece ∈ Text.splitOn '.' cs)
    (hne : piece ≠ []) : piece ∈ labels cs := by
  unfold labels
  dsimp only
  split
  next hlast =>
    obtain ⟨front, hfront⟩ := List.getLast?_eq_some_iff.1 hlast.2
    rw [hfront, List.dropLast_concat]
    rw [hfront, List.mem_append, List.mem_singleton] at hpiece
    exact hpiece.resolve_right hne
  next => exact hpiece

/-- A DNS name consists of points and characters of labels. -/
theorem isLabelChar_of_isDns {cs : List Char} (h : isDns cs = true) {c : Char} (hc : c ∈ cs) :
    c = '.' ∨ isLabelChar c = true := by
  unfold isDns at h
  rw [Bool.and_eq_true, Bool.and_eq_true] at h
  have hlabels := List.all_eq_true.1 h.1.2
  rcases Text.eq_or_mem_splitOn '.' hc with rfl | ⟨piece, hpiece, hmem⟩
  · exact .inl rfl
  · have hlabel := hlabels piece (mem_labels_of_mem_splitOn hpiece (List.ne_nil_of_mem hmem))
    simp only [isLabel, Bool.and_eq_true] at hlabel
    exact .inr (List.all_eq_true.1 hlabel.1.1.2 c hmem)

theorem isVisible_of_isDns {cs : List Char} (h : isDns cs = true) : Text.IsVisible cs := by
  intro c hc
  rcases isLabelChar_of_isDns h hc with rfl | hlabel
  · decide
  · exact isVisibleChar_of_isLabelChar hlabel

/-- Servers are named by visible texts only. -/
theorem isVisible_of_parse {text : String} {name : ServerName} (h : parse text = .ok name) :
    Text.IsVisible text.toList := by
  unfold parse at h
  split at h
  next hdns => exact isVisible_of_isDns hdns
  next =>
    split at h
    next hip => exact Ip.isVisible_of_parse? hip
    next => cases h

end ServerName

end Gatehouse
