import Gatehouse.Proofs.Url.Addresses
import Gatehouse.Proofs.Url.Domains
import Gatehouse.Proofs.Url.Parts

/-!
# Hosts that are written and read back

The text of a host is read back as the host under schemes of the same class. This holds of
addresses of both versions, of the names of general schemes, which are encoded, and of ordinary
domains. A domain with a label in Punycode, or with characters that are mapped, reads back only as
far as its canonical form is its own canonical form.

## Main definitions

* `Host.isNameChar`, `Host.isTextChar`: the characters of names and of the texts of hosts.
* `Host.IsRead`: the hosts that schemes of a class have, one constructor for each kind.
* `Host.ReadsBack`: the text of a host is read as the host.

## Main results

* `Host.isRead_of_readHost`: only such hosts are read.
* `Host.IsRead.isTextChar`: their texts consist of characters of hosts.
* `Host.IsRead.readsBack`: such a host is read back unless it is a domain that is not ordinary.
-/

namespace Gatehouse

/-! ### Bytes of plain text -/

namespace Percent

/-- Nothing is decoded where there is no percent sign. -/
theorem decode_eq_self {bs : Bytes} (h : ∀ b ∈ bs, b ≠ 0x25) : decode bs = bs := by
  induction bs using decode.induct with
  | case1 => rfl
  | case2 b x y rest v hpair ih =>
    rw [if_neg (h b (.head _))] at hpair
    cases hpair
  | case3 b x y rest hpair ih =>
    rw [decode, hpair, ih fun c hc => h c (.tail _ hc)]
  | case4 b rest hshort ih =>
    rw [decode, ih fun c hc => h c (.tail _ hc)]
    exact hshort

/-- What is encoded already stays as it is. -/
theorem encode_of_isEncoded {inSet : Char → Bool} {cs : List Char} (h : IsEncoded inSet cs) :
    encode inSet cs = cs := by
  induction cs with
  | nil => rfl
  | cons c cs ih =>
    obtain ⟨hc, hcs⟩ := List.forall_mem_cons.1 h
    rw [encode, List.flatMap_cons, encodeChar, hc, ← encode, ih hcs]
    rfl

theorem encode_ne_nil (inSet : Char → Bool) {cs : List Char} (hne : cs ≠ []) :
    encode inSet cs ≠ [] := by
  obtain ⟨c, cs, rfl⟩ := List.exists_cons_of_ne_nil hne
  intro hnil
  have hhead := head?_encode_cons inSet c cs
  rw [hnil] at hhead
  rcases hhead with hhead | hhead <;> cases hhead

theorem isKept_inControls : IsKept inControls := ⟨by decide, by decide⟩

end Percent

namespace Domain

theorem encodeChar_of_isPlainChar {c : Char} (h : isPlainChar c = true) :
    Utf8.encodeChar c = [UInt8.ofNat c.toNat] := if_pos (isPlainChar_iff.1 h).1

theorem toNat_ofNat_of_isPlainChar {c : Char} (h : isPlainChar c = true) :
    (UInt8.ofNat c.toNat).toNat = c.toNat := by
  have hascii := (isPlainChar_iff.1 h).1
  rw [UInt8.toNat_ofNat']
  omega

/-- Plain text is encoded with one byte for each character. -/
theorem decode?_encode_of_isPlain {cs : List Char} (h : IsPlain cs) :
    Utf8.decode? (Utf8.encode cs) = some cs := by
  induction cs with
  | nil => rfl
  | cons c cs ih =>
    obtain ⟨hc, hcs⟩ := List.forall_mem_cons.1 h
    rw [Utf8.encode, List.flatMap_cons, encodeChar_of_isPlainChar hc, ← Utf8.encode,
      List.singleton_append, Utf8.decode?.eq_def]
    dsimp only
    rw [toNat_ofNat_of_isPlainChar hc, if_pos (isPlainChar_iff.1 hc).1, ih hcs, Option.map_some,
      Char.ofNat_toNat]

/-- Nor does it contain an encoded byte. -/
theorem decode_encode_of_isPlain {cs : List Char} (h : IsPlain cs) :
    Percent.decode (Utf8.encode cs) = Utf8.encode cs := by
  refine Percent.decode_eq_self fun b hb hpercent => ?_
  obtain ⟨c, hc, hb⟩ := List.mem_flatMap.1 hb
  rw [encodeChar_of_isPlainChar (h c hc), List.mem_singleton] at hb
  have hnumber : c.toNat = '%'.toNat := by
    rw [← toNat_ofNat_of_isPlainChar (h c hc), ← hb, hpercent]
    rfl
  have hc := h c hc
  rw [Char.toNat_inj.1 hnumber] at hc
  exact absurd hc (by decide)

end Domain

namespace Host

open Percent (inControls)

/-! ### The characters of hosts -/

/-- A character that may stand in the name of a host: no blank, and nothing that ends a host. -/
def isNameChar (c : Char) : Bool := !Url.isBlank c && !isDelimiter c

/-- A character that may stand in the text of a host: one of a name, or one that an address of
version 6 has besides its digits. -/
def isTextChar (c : Char) : Bool := isNameChar c || c == '[' || c == ']' || c == ':'

/-- A character of a class is none that the class does not have. -/
theorem ne_of_class {p : Char → Bool} {c d : Char} (hc : p c = true) (hd : p d = false) :
    c ≠ d := by
  rintro rfl
  rw [hc] at hd
  cases hd

theorem isTextChar_of_isNameChar {c : Char} (h : isNameChar c = true) : isTextChar c = true := by
  simp [isTextChar, h]

/-- The delimiters that are no blanks. -/
def delimiters : List Char := "#/:<>?@[\\]^|".toList

theorem isNameChar_of_notMem {c : Char} (hblank : Url.isBlank c = false) (hc : c ∉ delimiters) :
    isNameChar c = true := by
  have hall : "\t\n\r #/:<>?@[\\]^|".toList.all
      (fun d => Url.isBlank d || delimiters.contains d) = true := by decide
  have hdelimiter : isDelimiter c = false := by
    refine Bool.or_eq_false_iff.2 ⟨beq_false_of_ne fun hzero => ?_, ?_⟩
    · rw [Url.isBlank, hzero] at hblank
      cases hblank
    · rw [← Bool.not_eq_true, List.contains_iff_mem]
      intro hmem
      have hkept := List.all_eq_true.1 hall c hmem
      rw [hblank, Bool.false_or, List.contains_iff_mem] at hkept
      exact hc hkept
  rw [isNameChar, hblank, hdelimiter]
  rfl

theorem isNameChar_digitChar {d : Nat} (hd : d < 16) : isNameChar (Nat.digitChar d) = true := by
  have hall : ∀ d < 16, isNameChar (Nat.digitChar d) = true := by decide
  exact hall d hd

theorem isNameChar_hexUpper (n : Nat) : isNameChar (Numeral.hexUpper n) = true := by
  have hall : ∀ d < 16, isNameChar (Nat.digitChar d).toUpper = true := by decide
  exact hall _ (Nat.mod_lt n (by decide))

/-- What no domain contains is more than what no name contains. -/
theorem isNameChar_of_isForbidden {c : Char} (h : Domain.isForbidden c = false) :
    isNameChar c = true := by
  have hall : delimiters.all Domain.isForbidden = true := by decide
  refine isNameChar_of_notMem ?_ fun hmem => ?_
  · exact (Bool.or_eq_false_iff.1 (Bool.or_eq_false_iff.1 h).1).1
  · rw [List.all_eq_true.1 hall c hmem] at h
    cases h

/-- Text without delimiters is encoded with the characters of names. -/
theorem isNameChar_of_mem_encode {cs : List Char} (h : ∀ c ∈ cs, isDelimiter c = false) {c : Char}
    (hc : c ∈ Percent.encode inControls cs) : isNameChar c = true := by
  rcases Percent.mem_encode hc with ⟨hmem, hcontrol⟩ | rfl | ⟨n, rfl⟩
  · have hall : delimiters.all isDelimiter = true := by decide
    have hc := h c hmem
    refine isNameChar_of_notMem ?_ fun hdelimiter => ?_
    · have hspace : c.toNat ≠ 0x20 := fun hspace => by
        rw [Char.toNat_inj.1 (show c.toNat = ' '.toNat from hspace)] at hc
        cases hc
      have hlow := of_decide_eq_false (Bool.or_eq_false_iff.1 hcontrol).1
      exact decide_eq_false (by omega)
    · rw [List.all_eq_true.1 hall c hdelimiter] at hc
      cases hc
  · decide
  · exact isNameChar_hexUpper n

theorem isNameChar_of_mem_v4 {x : Ipv4} {c : Char} (hc : c ∈ x.text) : isNameChar c = true := by
  rcases Ipv4.mem_text hc with rfl | ⟨d, hd, rfl⟩
  · decide
  · exact isNameChar_digitChar (Nat.lt_trans hd (by decide))

theorem isTextChar_of_mem_v6 {x : Ipv6} {c : Char} (hc : c ∈ x.groupsText) :
    isTextChar c = true := by
  rcases Ipv6.mem_groupsText hc with rfl | ⟨d, hd, rfl⟩
  · decide
  · exact isTextChar_of_isNameChar (isNameChar_digitChar hd)

/-! ### The hosts that are read -/

/-- A host that a scheme has, by the class of the scheme: an address of version 6 in brackets, an
address of version 4 or another domain, or an encoded text without delimiters. -/
inductive IsRead : (special : Bool) → Host → Prop
  | v6 (special : Bool) (x : Ipv6) : IsRead special (.v6 x)
  | v4 (x : Ipv4) : IsRead true (.v4 x)
  | domain {cs : List Char} (hne : cs ≠ []) (hnumber : Ipv4.endsInNumber cs = false)
      (hchars : ∀ c ∈ cs, Domain.isForbidden c = false) : IsRead true (.name (String.ofList cs))
  | encoded {cs : List Char} (hne : cs ≠ []) (hchars : ∀ c ∈ cs, isDelimiter c = false) :
      IsRead false (.name (String.ofList (Percent.encode inControls cs)))

theorem isRead_of_parseBracketed {special : Bool} {inner : List Char} {host : Host}
    (h : parseBracketed inner = .ok host) : IsRead special host := by
  unfold parseBracketed at h
  split at h
  next =>
    split at h
    next x _ =>
      cases h
      exact .v6 special x
    next => cases h
  next => cases h

theorem isRead_of_parseSpecial {cs : List Char} {host : Host} (h : parseSpecial cs = .ok host) :
    IsRead true host := by
  unfold parseSpecial at h
  split at h
  next => exact isRead_of_parseBracketed h
  next =>
    split at h
    next domain hdomain =>
      obtain ⟨text, -, hascii⟩ := Option.bind_eq_some_iff.1 hdomain
      unfold ofDomain at h
      split at h
      next => cases h
      next hne =>
        split at h
        next =>
          split at h
          next x _ =>
            cases h
            exact .v4 x
          next => cases h
        next hnumber =>
          cases h
          exact .domain hne (Bool.not_eq_true _ ▸ hnumber) (Domain.isForbidden_of_toAscii? hascii)
    next => cases h

theorem isRead_of_parseGeneral {cs : List Char} {host : Host}
    (h : parseGeneral cs = .ok (some host)) : IsRead false host := by
  unfold parseGeneral at h
  split at h
  next => cases h
  next =>
    obtain ⟨host', hparse, heq⟩ := exists_of_map_eq_ok h
    cases heq
    exact isRead_of_parseBracketed hparse
  next hne _ =>
    split at h
    next => cases h
    next hchars =>
      cases h
      exact .encoded hne fun c hc =>
        Bool.not_eq_true _ ▸ List.any_eq_false.1 (Bool.not_eq_true _ ▸ hchars) c hc

/-- Only such hosts are read. -/
theorem isRead_of_readHost {special : Bool} {cs : List Char} {host : Host}
    (h : Authority.readHost special cs = .ok (some host)) : IsRead special host := by
  unfold Authority.readHost at h
  cases special with
  | false => exact isRead_of_parseGeneral h
  | true =>
    rw [if_pos rfl] at h
    split at h
    next => cases h
    next =>
      obtain ⟨host', hparse, heq⟩ := exists_of_map_eq_ok h
      cases heq
      exact isRead_of_parseSpecial hparse

/-! ### The texts of hosts -/

variable {special : Bool} {host : Host}

/-- The text of a host consists of characters of a name, unless it is in brackets. -/
theorem IsRead.isNameChar (h : IsRead special host) (hv6 : ∀ x, host ≠ .v6 x) :
    ∀ c ∈ host.text.toList, isNameChar c = true := by
  cases h with
  | v6 special x => exact absurd rfl (hv6 x)
  | v4 x =>
    rw [text, String.toList_ofList]
    exact fun c hc => isNameChar_of_mem_v4 hc
  | domain hne hnumber hchars =>
    rw [text, String.toList_ofList]
    exact fun c hc => isNameChar_of_isForbidden (hchars c hc)
  | encoded hne hchars =>
    rw [text, String.toList_ofList]
    exact fun c hc => isNameChar_of_mem_encode hchars hc

theorem IsRead.text_cases (h : IsRead special host) :
    (∀ c ∈ host.text.toList, Host.isNameChar c = true) ∨
      ∃ x : Ipv6, host.text.toList = '[' :: x.groupsText ++ [']'] := by
  cases host with
  | v6 x => exact .inr ⟨x, String.toList_ofList⟩
  | name | v4 => exact .inl (h.isNameChar nofun)

theorem IsRead.isTextChar (h : IsRead special host) :
    ∀ c ∈ host.text.toList, Host.isTextChar c = true := by
  rcases h.text_cases with hname | ⟨x, htext⟩
  · exact fun c hc => isTextChar_of_isNameChar (hname c hc)
  · intro c hc
    rw [htext, List.cons_append, List.mem_cons, List.mem_append, List.mem_singleton] at hc
    rcases hc with rfl | hc | rfl
    · decide
    · exact isTextChar_of_mem_v6 hc
    · decide

/-! ### Reading back -/

/-- The text of a host is read as the host. -/
def ReadsBack (special : Bool) (host : Host) : Prop :=
  Authority.readHost special host.text.toList = .ok (some host)

theorem readsBack_v6 (special : Bool) (x : Ipv6) : ReadsBack special (.v6 x) := by
  have hbracketed : parseBracketed (x.groupsText ++ [']']) = .ok (.v6 x) := by
    rw [parseBracketed, List.getLast?_concat, List.dropLast_concat]
    simp only [Ipv6.ofBracketed?_groupsText]
  rw [ReadsBack, text, String.toList_ofList, List.cons_append]
  cases special with
  | false => simp [Authority.readHost, parseGeneral, hbracketed, Except.map]
  | true => simp [Authority.readHost, parseSpecial, hbracketed, Except.map]

/-- An ordinary domain is the domain that its text is read as. -/
theorem parseSpecial_of_isOrdinary {cs : List Char} (h : Domain.IsOrdinary cs) :
    parseSpecial cs = ofDomain cs := by
  have hbracket : ∀ inner, cs ≠ '[' :: inner := by
    rintro inner rfl
    exact absurd (h.plain '[' List.mem_cons_self) (by decide)
  rw [parseSpecial]
  · rw [Domain.decode_encode_of_isPlain h.plain, Domain.decode?_encode_of_isPlain h.plain,
      Option.bind_some, Domain.toAscii?_of_isOrdinary h]
  · exact hbracket

theorem isOrdinary_v4 (x : Ipv4) : Domain.IsOrdinary x.text where
  plain c hc := by
    rcases Ipv4.mem_text hc with rfl | ⟨d, hd, rfl⟩
    · decide
    · have hall : ∀ d < 10, Domain.isPlainChar (Nat.digitChar d) = true := by decide
      exact hall d hd
  unmarked label hlabel := by
    rw [Ipv4.splitOn_text] at hlabel
    obtain ⟨b, -, rfl⟩ := List.mem_map.1 hlabel
    have hall : ∀ n < 256, ¬ Domain.IsMarked (Numeral.digits n) := by decide +kernel
    exact hall _ b.toNat_lt

theorem readsBack_v4 (x : Ipv4) : ReadsBack true (.v4 x) := by
  have hne := x.text_ne_nil
  have hdomain : ofDomain x.text = .ok (.v4 x) := by
    rw [ofDomain, if_neg hne, if_pos (Ipv4.endsInNumber_text x), Ipv4.ofDomain?_text]
  rw [ReadsBack, text, String.toList_ofList, Authority.readHost, if_pos rfl, if_neg hne,
    parseSpecial_of_isOrdinary (isOrdinary_v4 x), hdomain]
  rfl

/-- A name without delimiters is encoded only once. -/
theorem readsBack_encoded {cs : List Char} (hne : cs ≠ [])
    (hchars : ∀ c ∈ cs, isDelimiter c = false) :
    ReadsBack false (.name (String.ofList (Percent.encode inControls cs))) := by
  have hname : ∀ c ∈ Percent.encode inControls cs, isNameChar c = true :=
    fun c hc => isNameChar_of_mem_encode hchars hc
  have hagain : Percent.encode inControls (Percent.encode inControls cs) =
      Percent.encode inControls cs :=
    Percent.encode_of_isEncoded (Percent.isEncoded_encode Percent.isKept_inControls cs)
  have hany : (Percent.encode inControls cs).any isDelimiter = false :=
    List.any_eq_false.2 fun c hc => by simpa using (Bool.and_eq_true_iff.1 (hname c hc)).2
  rw [ReadsBack, text, String.toList_ofList, Authority.readHost, if_neg Bool.false_ne_true,
    parseGeneral]
  · rw [hany, hagain]
    rfl
  · exact Percent.encode_ne_nil inControls hne
  · exact fun inner hinner => absurd (hname '[' (hinner ▸ List.mem_cons_self)) (by decide)

/-- Hosts are read back; of a domain that is not ordinary this has to be known. -/
theorem IsRead.readsBack (h : IsRead special host)
    (hdomain : special = true → ∀ name, host = .name name → ¬ Domain.IsOrdinary name.toList →
      ReadsBack special host) : ReadsBack special host := by
  cases h with
  | v6 special x => exact readsBack_v6 special x
  | v4 x => exact readsBack_v4 x
  | @domain cs hne hnumber hchars =>
    by_cases hordinary : Domain.IsOrdinary (String.ofList cs).toList
    · rw [String.toList_ofList] at hordinary
      rw [ReadsBack, text, String.toList_ofList, Authority.readHost, if_pos rfl, if_neg hne,
        parseSpecial_of_isOrdinary hordinary, ofDomain, if_neg hne, hnumber]
      rfl
    · exact hdomain rfl _ rfl hordinary
  | encoded hne hchars => exact readsBack_encoded hne hchars

end Host

end Gatehouse
