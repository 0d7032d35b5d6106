import Gatehouse.Proofs.Url.Addresses

/-!
# Addresses that are written and read strictly

The readers of addresses that stand on their own are stricter than those of URLs: they take no
octal or hexadecimal numbers, no leading zeros in addresses of version 4, and no address that is
shorter than it could be. What is written for an address is read by them as this address, also in
the form that URLs have for version 6, which never ends in dotted form. So the text of an address,
in brackets for version 6, with a colon and a port behind it is a socket address.

## Main results

* `readNumber_toDigits`: a written number is read up to the first character that is no digit.
* `Ipv4.read_text`, `Ipv4.parse?_text`: an address of version 4 is read back.
* `Ipv6.read_groupsText`: an address of version 6 is read back.
* `SocketAddress.parse?_v4`, `SocketAddress.parse?_v6`: addresses with a port.
-/

namespace Gatehouse

/-! ### Numbers -/

/-- A written number is read up to the first character that is no digit. -/
theorem readNumber_toDigits {base bound n : Nat} {most : Option Nat} {zeros : Bool}
    (hlow : 1 < base) (hhigh : base ≤ 16) (hn : n < bound)
    (hmost : ∀ k ∈ most, (Nat.toDigits base n).length ≤ k)
    (hzero : zeros = false → (Nat.toDigits base n).head? = some '0' →
      (Nat.toDigits base n).length ≤ 1)
    {rest : List Char} (hrest : ∀ c ∈ rest.head?, Numeral.hexDigit? c = none) :
    readNumber base most zeros bound (Nat.toDigits base n ++ rest) = some (n, rest) := by
  unfold readNumber
  extract_lets isDigit digits value
  have hall : ∀ c ∈ Nat.toDigits base n, isDigit c = true := by
    intro c hc
    obtain ⟨d, hd, rfl⟩ := Numeral.exists_digit_of_mem_toDigits hlow hc
    simp [isDigit, Numeral.hexDigit?_digitChar (Nat.lt_of_lt_of_le hd hhigh), hd]
  have hnone : rest.takeWhile isDigit = [] ∧ rest.dropWhile isDigit = rest := by
    cases rest with
    | nil => exact ⟨rfl, rfl⟩
    | cons c rest =>
      have hc : isDigit c = false := by simp [isDigit, hrest c rfl]
      simp [hc]
  have hdigits : digits = Nat.toDigits base n := by
    rw [show digits = (Nat.toDigits base n ++ rest).takeWhile isDigit from rfl,
      List.takeWhile_append_of_pos hall, hnone.1, List.append_nil]
  have hvalue : value = n := by
    rw [show value = Numeral.valueIn base 0 digits from rfl, hdigits]
    exact Numeral.valueIn_toDigits hlow hhigh n
  have hfits : most.any (· < (Nat.toDigits base n).length) = false := by
    cases most with
    | none => rfl
    | some k => simpa using hmost k rfl
  rw [hdigits, hvalue, List.dropWhile_append_of_pos hall, hnone.2,
    if_neg (mt List.length_eq_zero_iff.1 Nat.toDigits_ne_nil), if_neg (by simp [hfits]),
    if_neg, if_pos hn]
  exact fun h => absurd (hzero h.1 h.2.1) (Nat.not_le_of_lt h.2.2)

/-- No number is read where there is no digit. -/
theorem readNumber_of_not_digit {base bound : Nat} {most : Option Nat} {zeros : Bool}
    {cs : List Char} (h : ∀ c ∈ cs.head?, Numeral.hexDigit? c = none) :
    readNumber base most zeros bound cs = none := by
  cases cs with
  | nil => simp [readNumber]
  | cons c cs => simp [readNumber, h c rfl]

/-- What is left behind a number stood in the text before. -/
theorem mem_of_readNumber {base bound n : Nat} {most : Option Nat} {zeros : Bool}
    {cs rest : List Char} (h : readNumber base most zeros bound cs = some (n, rest)) {c : Char}
    (hc : c ∈ rest) : c ∈ cs := by
  unfold readNumber at h
  extract_lets isDigit digits value at h
  split_ifs at h
  obtain ⟨-, rfl⟩ := Prod.mk.inj (Option.some.inj h)
  exact (List.dropWhile_sublist isDigit).subset hc

/-! ### Version 4 -/

namespace Ipv4

/-- An octet is read up to the first character that is no digit. -/
theorem readOctet_digits (b : UInt8) {rest : List Char}
    (hrest : ∀ c ∈ rest.head?, Numeral.hexDigit? c = none) :
    readOctet (Numeral.digits b.toNat ++ rest) = some (b, rest) := by
  have hform : ∀ n < 256, (Numeral.digits n).length ≤ 3 ∧
      ((Numeral.digits n).head? = some '0' → (Numeral.digits n).length ≤ 1) := by decide +kernel
  obtain ⟨hmost, hzero⟩ := hform b.toNat b.toNat_lt
  have hread : readNumber 10 (some 3) false 256 (Numeral.digits b.toNat ++ rest) =
      some (b.toNat, rest) :=
    readNumber_toDigits (by decide) (by decide) b.toNat_lt (fun k hk => by cases hk; exact hmost)
      (fun _ => hzero) hrest
  rw [readOctet, hread, Option.map_some]
  simp only [UInt8.ofNat_toNat]

theorem text_append (x : Ipv4) (rest : List Char) : x.text ++ rest =
    Numeral.digits x.a.toNat ++ '.' :: (Numeral.digits x.b.toNat ++ '.' ::
      (Numeral.digits x.c.toNat ++ '.' :: (Numeral.digits x.d.toNat ++ rest))) := by
  simp [text, Text.joinWith]

/-- An address of version 4 is read up to the first character that is no digit. -/
theorem read_text (x : Ipv4) {rest : List Char}
    (hrest : ∀ c ∈ rest.head?, Numeral.hexDigit? c = none) :
    read (x.text ++ rest) = some (x, rest) := by
  have hpoint (rest : List Char) : ∀ c ∈ ('.' :: rest).head?, Numeral.hexDigit? c = none := by
    rintro _ ⟨⟩
    rfl
  simp only [read, text_append, readOctet_digits _ (hpoint _), readChar, readOctet_digits x.d hrest,
    Option.bind_eq_bind, Option.bind_some, if_true]
  rfl

/-- An address of version 4 is read back. -/
theorem parse?_text (x : Ipv4) : parse? x.text = some x := by
  have hread : read (x.text ++ []) = some (x, []) := x.read_text (by simp)
  rw [List.append_nil] at hread
  rw [parse?, hread]

/-- No address of version 4 is read where there is no digit. -/
theorem read_of_not_digit {cs : List Char} (h : ∀ c ∈ cs.head?, Numeral.hexDigit? c = none) :
    read cs = none := by
  simp [read, readOctet, readNumber_of_not_digit h]

/-- No address of version 4 is read where there is no point. -/
theorem read_of_notMem {cs : List Char} (h : '.' ∉ cs) : read cs = none := by
  unfold read
  cases hoctet : readOctet cs with
  | none => rfl
  | some found =>
    obtain ⟨a, rest⟩ := found
    obtain ⟨⟨n, rest'⟩, hnumber, heq⟩ := Option.map_eq_some_iff.1 hoctet
    obtain ⟨-, rfl⟩ := Prod.mk.inj heq
    have hpoint : readChar '.' rest' = none := by
      cases rest' with
      | nil => rfl
      | cons c rest' =>
        have hc : '.' ≠ c := fun heq => h (mem_of_readNumber hnumber (heq ▸ List.mem_cons_self))
        exact if_neg hc
    simp [hpoint]

end Ipv4

/-! ### Version 6 -/

namespace Ipv6

/-- What separates a group from the one before it. -/
def separator (i : Nat) : List Char := if i = 0 then [] else [':']

theorem readSeparator_append (i : Nat) (cs : List Char) :
    readSeparator i (separator i ++ cs) = some cs := by
  unfold readSeparator separator
  split <;> simp [readChar]

theorem point_notMem_joinGroups (gs : List Nat) : '.' ∉ joinGroups gs := by
  intro hmem
  rcases Text.mem_joinWith_toDigits (by decide) gs hmem with hcolon | ⟨d, hd, hdigit⟩
  · exact absurd hcolon (by decide)
  · have hpoint : ∀ d < 16, '.' ≠ Nat.digitChar d := by decide
    exact hpoint d hd hdigit

/-- A group is read up to the first character that is no digit. -/
theorem readNumber_hexDigits {g : Nat} (hg : g < 65536) {rest : List Char}
    (hrest : ∀ c ∈ rest.head?, Numeral.hexDigit? c = none) :
    readNumber 16 (some 4) true 65536 (Numeral.hexDigits g ++ rest) = some (g, rest) := by
  have hlength : (Nat.toDigits 16 g).length ≤ 4 :=
    (Nat.length_toDigits_le_iff (by decide) (by decide)).2 hg
  exact readNumber_toDigits (by decide) (by decide) hg (fun k hk => by cases hk; exact hlength)
    (fun h => Bool.noConfusion h) hrest

/-- One group is read, as there is no point behind it. -/
theorem readGroups_group {g : Nat} (hg : g < 65536) {room i : Nat} {rest : List Char}
    (hrest : ∀ c ∈ rest.head?, Numeral.hexDigit? c = none) (hpoint : '.' ∉ rest) :
    readGroups (room + 1) i (separator i ++ (Numeral.hexDigits g ++ rest)) =
      (g :: (readGroups room (i + 1) rest).1, (readGroups room (i + 1) rest).2) := by
  have hdotted : Ipv4.read (Numeral.hexDigits g ++ rest) = none := by
    refine Ipv4.read_of_notMem fun hmem => ?_
    rcases List.mem_append.1 hmem with hdigit | hrest
    · exact absurd (isSome_hexDigit?_of_mem_hexDigits hdigit) (by decide)
    · exact hpoint hrest
  simp only [readGroups, readSeparator_append, Option.bind_some, hdotted, ite_self,
    readNumber_hexDigits hg hrest]

/-- A text from which no groups are read, wherever they would stand in an address. -/
def IsUngrouped (cs : List Char) : Prop :=
  ∀ room i, readGroups room i cs = ([], false, cs)

/-- No groups are read where there is no digit behind the separator. -/
theorem readGroups_of_not_digit {room i : Nat} {cs : List Char}
    (h : ∀ cs', readSeparator i cs = some cs' → ∀ c ∈ cs'.head?, Numeral.hexDigit? c = none) :
    readGroups room i cs = ([], false, cs) := by
  cases room with
  | zero => rfl
  | succ room =>
    cases hseparator : readSeparator i cs with
    | none => simp [readGroups, hseparator]
    | some cs' =>
      have hdigit := h cs' hseparator
      simp [readGroups, hseparator, Ipv4.read_of_not_digit hdigit, readNumber_of_not_digit hdigit]

/-- No groups are read in front of two colons. -/
theorem isUngrouped_gap (cs : List Char) : IsUngrouped (':' :: ':' :: cs) := by
  refine fun room i => readGroups_of_not_digit fun cs' hcs' => ?_
  have hcolon : ∃ rest, cs' = ':' :: rest := by
    unfold readSeparator at hcs'
    split at hcs'
    next => exact ⟨':' :: cs, (Option.some.inj hcs').symm⟩
    next => exact ⟨cs, (Option.some.inj hcs').symm⟩
  obtain ⟨rest, rfl⟩ := hcolon
  rintro _ ⟨⟩
  rfl

/-- No groups are read behind a bracket. -/
theorem isUngrouped_bracket (cs : List Char) : IsUngrouped (']' :: cs) := by
  refine fun room i => readGroups_of_not_digit fun cs' hcs' => ?_
  have hbracket : cs' = ']' :: cs := by
    unfold readSeparator at hcs'
    split at hcs'
    next => exact (Option.some.inj hcs').symm
    next => exact absurd hcs' (by simp [readChar])
  subst hbracket
  rintro _ ⟨⟩
  rfl

section Rest

variable {rest : List Char} (hpoint : '.' ∉ rest)
  (hdigit : ∀ c ∈ rest.head?, Numeral.hexDigit? c = none) (hrest : IsUngrouped rest)

include hpoint hdigit hrest

/-- Written groups are read up to a text from which no groups are read. -/
theorem readGroups_joinGroups {gs : List Nat} (hne : gs ≠ []) (hgs : ∀ g ∈ gs, g < 65536)
    {room i : Nat} (hroom : gs.length ≤ room) :
    readGroups room i (separator i ++ (joinGroups gs ++ rest)) = (gs, false, rest) := by
  induction gs generalizing room i with
  | nil => exact absurd rfl hne
  | cons g gs ih =>
    obtain ⟨hg, hothers⟩ := List.forall_mem_cons.1 hgs
    obtain ⟨room, rfl⟩ := Nat.exists_eq_add_of_le' (Nat.zero_lt_of_lt hroom)
    by_cases hnil : gs = []
    · subst hnil
      rw [show joinGroups [g] = Numeral.hexDigits g from rfl, readGroups_group hg hdigit hpoint,
        hrest room (i + 1)]
    · -- Behind a group that is not the last one stands the separator of the next.
      have hcolon : ∀ c ∈ (':' :: (joinGroups gs ++ rest)).head?, Numeral.hexDigit? c = none := by
        rintro _ ⟨⟩
        rfl
      have hpoints : '.' ∉ ':' :: (joinGroups gs ++ rest) := by
        simp [point_notMem_joinGroups gs, hpoint]
      have hlater : readGroups room (i + 1) (separator (i + 1) ++ (joinGroups gs ++ rest)) =
          (gs, false, rest) := ih hnil hothers (Nat.le_of_succ_le_succ hroom)
      rw [separator, if_neg (Nat.succ_ne_zero i), List.singleton_append] at hlater
      rw [joinGroups_cons g hnil, List.append_assoc, List.cons_append,
        readGroups_group hg hcolon hpoints, hlater]

/-- The groups at the front of a text are read, or none if there are none. -/
theorem readGroups_front {gs : List Nat} (hgs : ∀ g ∈ gs, g < 65536) {room : Nat}
    (hroom : gs.length ≤ room) : readGroups room 0 (joinGroups gs ++ rest) = (gs, false, rest) := by
  by_cases hnil : gs = []
  · subst hnil
    exact hrest room 0
  · exact readGroups_joinGroups hpoint hdigit hrest hnil hgs hroom

/-- An address of version 6 is read up to a text from which no groups are read. -/
theorem read_groupsText (x : Ipv6) : read (x.groupsText ++ rest) = some (x, rest) := by
  rcases x.groupsText_cases with htext | ⟨front, n, back, hn, hgroups, htext⟩
  · have hread : readGroups 8 0 (joinGroups x.groups ++ rest) = (x.groups, false, rest) :=
      readGroups_front hpoint hdigit hrest (fun g hg => lt_of_mem_groups hg) (Nat.le_refl 8)
    have hlength : x.groups.length = 8 := rfl
    simp only [read, htext, hread, hlength, if_true, ofGroups?_groups, Option.map_some]
  · have hlength : front.length + n + back.length = 8 := length_of_groups hgroups
    have hlt : ∀ g ∈ front ++ List.replicate n 0 ++ back, g < 65536 :=
      fun g hg => lt_of_mem_groups (hgroups.symm ▸ hg)
    have hback : readGroups (7 - front.length) 0 (joinGroups back ++ rest) =
        (back, false, rest) :=
      readGroups_front hpoint hdigit hrest (fun g hg => hlt g (List.mem_append_right _ hg))
        (by omega)
    have hfront : readGroups 8 0 (joinGroups front ++ ':' :: ':' :: (joinGroups back ++ rest)) =
        (front, false, ':' :: ':' :: (joinGroups back ++ rest)) := by
      refine readGroups_front ?_ ?_ (isUngrouped_gap _)
        (fun g hg => hlt g (List.mem_append_left _ (List.mem_append_left _ hg))) (by omega)
      · simp [point_notMem_joinGroups back, hpoint]
      · rintro _ ⟨⟩
        rfl
    -- As many zeros are put in as the run had that was left out.
    have hzeros : 8 - front.length - back.length = n := by omega
    have hshort : front.length ≠ 8 := by omega
    have hchar (cs : List Char) : readChar ':' (':' :: cs) = some cs := by
      simp [readChar]
    simp only [read, htext, List.append_assoc, List.cons_append, hfront, if_neg hshort, hchar,
      Option.bind_some, hback, hzeros]
    rw [← List.append_assoc, ← hgroups, ofGroups?_groups]
    rfl

end Rest

end Ipv6

/-! ### Socket addresses -/

namespace SocketAddress

/-- A colon and the digits of a port are read. -/
theorem readPort_digits {port : Nat} (hport : port < 65536) :
    readPort (':' :: Numeral.digits port) = some port := by
  have hread : readNumber 10 none true 65536 (Nat.toDigits 10 port ++ []) = some (port, []) :=
    readNumber_toDigits (by decide) (by decide) hport (fun k hk => by cases hk)
      (fun h => Bool.noConfusion h) (by simp)
  rw [List.append_nil] at hread
  simp [readPort, readChar, Numeral.digits, hread]

/-- An address of version 4 with a port is read back. -/
theorem parse?_v4 (x : Ipv4) {port : Nat} (hport : port < 65536) {s : String}
    (hs : s.toList = x.text ++ ':' :: Numeral.digits port) : parse? s = some ⟨.v4 x, port⟩ := by
  have hread : Ipv4.read (x.text ++ ':' :: Numeral.digits port) =
      some (x, ':' :: Numeral.digits port) := by
    refine x.read_text ?_
    rintro _ ⟨⟩
    rfl
  have hv4 : parseV4? s.toList = some ⟨.v4 x, port⟩ := by
    simp [parseV4?, hs, hread, readPort_digits hport]
  rw [parse?, hv4]

/-- An address of version 6 in brackets, with a port, is read back. -/
theorem parse?_v6 (x : Ipv6) {port : Nat} (hport : port < 65536) {s : String}
    (hs : s.toList = '[' :: x.groupsText ++ ']' :: ':' :: Numeral.digits port) :
    parse? s = some ⟨.v6 x, port⟩ := by
  have hread : Ipv6.read (x.groupsText ++ ']' :: ':' :: Numeral.digits port) =
      some (x, ']' :: ':' :: Numeral.digits port) := by
    refine x.read_groupsText ?_ ?_ (Ipv6.isUngrouped_bracket _)
    · intro hmem
      simp only [List.mem_cons] at hmem
      obtain hbracket | hcolon | hmem := hmem
      · exact absurd hbracket (by decide)
      · exact absurd hcolon (by decide)
      · exact absurd (Numeral.isSome_digit?_of_mem_digits hmem) (by decide)
    · rintro _ ⟨⟩
      rfl
  have hv4 : parseV4? s.toList = none := by
    have hdigit : ∀ c ∈ s.toList.head?, Numeral.hexDigit? c = none := by
      rw [hs]
      rintro _ ⟨⟩
      rfl
    rw [parseV4?, Ipv4.read_of_not_digit hdigit]
    rfl
  have hv6 : parseV6? s.toList = some ⟨.v6 x, port⟩ := by
    simp [parseV6?, hs, readChar, hread, skipZone, readPort_digits hport]
  rw [parse?, hv4, hv6]

end SocketAddress

end Gatehouse
