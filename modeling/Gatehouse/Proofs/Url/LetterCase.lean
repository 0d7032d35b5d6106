import Gatehouse.Proofs.Url.Hosts

/-!
# The spellings of a domain

The host of a special scheme is decoded from percent-encoding and from UTF-8, and then its
characters are mapped. Neither how its characters are encoded nor the case of its letters is left
after that. Lower case may be taken at any of these steps: the bytes of ASCII letters are found only
in ASCII letters, and the digits of encoded bytes may be in either case.

## Main definitions

* `Utf8.lowerByte`: the byte of a letter in lower case.
* `Host.domain?`: the domain that the host of a special scheme is read as.
* `Host.AreSpellings`: two texts are the same up to percent-encoding and letter case.

## Main results

* `Utf8.encode_toLower`, `Percent.lower_decode`, `Utf8.decode?_lower`, `Domain.toAscii?_toLower`:
  lower case at each step.
* `Host.AreSpellings.of_toLower_eq`: texts in different letter case are spellings of one another.
* `Host.AreSpellings.encode`: so is a text with some of its characters encoded.
* `Host.AreSpellings.domain?_eq`: all spellings are read as the same domain.
-/

namespace Gatehouse

/-! ### Bytes of letters -/

namespace Utf8

/-- A byte, in lower case if it is that of an ASCII letter. -/
def lowerByte (b : UInt8) : UInt8 := if 0x41 ≤ b.toNat ∧ b.toNat ≤ 0x5A then b + 32 else b

/-- What holds of all bytes is shown for each of them. -/
theorem forall_byte_iff {p : UInt8 → Prop} : (∀ b, p b) ↔ ∀ n < 256, p (UInt8.ofNat n) := by
  refine ⟨fun h n _ => h _, fun h b => ?_⟩
  have hb := h b.toNat b.toNat_lt
  rwa [UInt8.ofNat_toNat] at hb

theorem lowerByte_lowerByte (b : UInt8) : lowerByte (lowerByte b) = lowerByte b := by
  revert b
  rw [forall_byte_iff]
  decide +kernel

theorem lowerByte_of_le {b : UInt8} (h : 0x80 ≤ b.toNat) : lowerByte b = b :=
  if_neg fun hletter => absurd hletter.2 (by omega)

theorem lowerByte_lt (b : UInt8) : (lowerByte b).toNat < 0x80 ↔ b.toNat < 0x80 := by
  revert b
  rw [forall_byte_iff]
  decide +kernel

theorem continuation?_lowerByte (b : UInt8) : continuation? (lowerByte b) = continuation? b := by
  by_cases h : b.toNat < 0x80
  · have hlower := (lowerByte_lt b).2 h
    rw [continuation?, continuation?, if_neg (by omega), if_neg (by omega)]
  · rw [lowerByte_of_le (by omega)]

/-- What is read behind a continuation byte may be taken in lower case. -/
theorem bind_continuation?_lowerByte {b : UInt8} {read read' : Nat → Option (List Char)}
    (h : ∀ x, read x = (read' x).map Text.toLower) :
    (continuation? (lowerByte b)).bind read =
      ((continuation? b).bind read').map Text.toLower := by
  rw [continuation?_lowerByte]
  cases continuation? b with
  | none => rfl
  | some x => exact h x

/-- A character beyond ASCII has no other case here. -/
theorem toLower_of_le {c : Char} (h : 0x80 ≤ c.toNat) : c.toLower = c := by
  refine Text.toLower_of_not_isUpper fun hupper => ?_
  have hhigh : c.val ≤ 90 := (of_decide_eq_true hupper : 65 ≤ c.val ∧ c.val ≤ 90).2
  have hnat : c.toNat ≤ 90 := hhigh
  omega

theorem toLower_ofNat {n : Nat} (h : n < 0x80) :
    (Char.ofNat n).toLower = Char.ofNat (lowerByte (UInt8.ofNat n)).toNat := by
  have hall : ∀ n < 0x80,
      (Char.ofNat n).toLower = Char.ofNat (lowerByte (UInt8.ofNat n)).toNat := by decide +kernel
  exact hall n h

/-- Characters beyond ASCII have no bytes of ASCII characters. -/
theorem le_of_mem_encodeChar {c : Char} (hc : 0x80 ≤ c.toNat) {b : UInt8} (hb : b ∈ encodeChar c) :
    0x80 ≤ b.toNat := by
  have hvalid : c.toNat < 0x110000 := by
    rcases c.valid with hlow | ⟨-, hhigh⟩
    · exact Nat.lt_trans hlow (by decide)
    · exact hhigh
  unfold encodeChar at hb
  extract_lets n at hb
  have hn : n = c.toNat := rfl
  split_ifs at hb
  all_goals
    simp only [List.mem_cons, List.not_mem_nil, or_false] at hb
  · omega
  · rcases hb with rfl | rfl <;> rw [UInt8.toNat_ofNat'] <;> omega
  · rcases hb with rfl | rfl | rfl <;> rw [UInt8.toNat_ofNat'] <;> omega
  · rcases hb with rfl | rfl | rfl | rfl <;> rw [UInt8.toNat_ofNat'] <;> omega

/-- The byte of the percent sign stands for nothing else. -/
theorem ne_percent_of_mem_encodeChar {c : Char} (hc : c ≠ '%') {b : UInt8}
    (hb : b ∈ encodeChar c) : b ≠ 0x25 := by
  rintro rfl
  by_cases hascii : c.toNat < 0x80
  · rw [encodeChar, if_pos hascii, List.mem_singleton] at hb
    have hnumber : '%'.toNat = c.toNat := by
      have hbyte := congrArg UInt8.toNat hb
      rwa [UInt8.toNat_ofNat', Nat.mod_eq_of_lt (by omega)] at hbyte
    exact hc (Char.toNat_inj.1 hnumber).symm
  · exact absurd (le_of_mem_encodeChar (Nat.le_of_not_lt hascii) hb) (by decide)

theorem encodeChar_toLower (c : Char) : encodeChar c.toLower = (encodeChar c).map lowerByte := by
  by_cases hc : c.toNat < 0x80
  · have hall : ∀ n < 0x80, encodeChar (Char.ofNat n).toLower =
        (encodeChar (Char.ofNat n)).map lowerByte := by decide +kernel
    rw [← Char.ofNat_toNat c]
    exact hall _ hc
  · have hle : 0x80 ≤ c.toNat := Nat.le_of_not_lt hc
    have hbytes : (encodeChar c).map lowerByte = (encodeChar c).map id :=
      List.map_congr_left fun b hb => lowerByte_of_le (le_of_mem_encodeChar hle hb)
    rw [toLower_of_le hle, hbytes, List.map_id]

theorem encode_cons (c : Char) (cs : List Char) : encode (c :: cs) = encodeChar c ++ encode cs :=
  List.flatMap_cons

theorem encode_append (cs cs' : List Char) : encode (cs ++ cs') = encode cs ++ encode cs' :=
  List.flatMap_append

/-- A text in lower case has its bytes in lower case. -/
theorem encode_toLower (cs : List Char) : encode (Text.toLower cs) = (encode cs).map lowerByte := by
  induction cs with
  | nil => rfl
  | cons c cs ih =>
    rw [Text.toLower, List.map_cons, ← Text.toLower, encode_cons, encode_cons, ih,
      encodeChar_toLower, List.map_append]

/-- A character that is read from several bytes has no other case. -/
theorem map_toLower_bind_scalar? {least : Nat} (hleast : 0x80 ≤ least) (n : Nat)
    (text : Option (List Char)) :
    ((scalar? least n).bind fun c => text.map (c :: ·)).map Text.toLower =
      (scalar? least n).bind fun c => (text.map Text.toLower).map (c :: ·) := by
  unfold scalar?
  split
  next h =>
    have hvalid : n.isValidChar := by
      unfold Nat.isValidChar
      omega
    have hc : (Char.ofNat n).toLower = Char.ofNat n :=
      toLower_of_le (by rw [Char.ofNat, dif_pos hvalid]; exact Nat.le_trans hleast h.1)
    simp [Option.map_map, Function.comp_def, Text.toLower, hc]
  next => rfl

/-- Bytes in lower case are read as the text in lower case. -/
theorem decode?_lower (bs : Bytes) :
    decode? (bs.map lowerByte) = (decode? bs).map Text.toLower := by
  induction bs using decode?.induct with
  | case1 => rfl
  | case2 a rest hascii ih =>
    have hlower : Char.ofNat (lowerByte a).toNat = (Char.ofNat a.toNat).toLower := by
      rw [toLower_ofNat hascii, UInt8.ofNat_toNat]
    rw [List.map_cons, decode?.eq_def, decode?.eq_def]
    dsimp only
    rw [if_pos ((lowerByte_lt a).2 hascii), if_pos hascii, ih, hlower]
    cases decode? rest <;> rfl
  | case3 a rest hascii hlow =>
    rw [List.map_cons, lowerByte_of_le (Nat.le_of_not_lt hascii), decode?.eq_def, decode?.eq_def]
    simp [hascii, hlow]
  | case4 a hascii hlow =>
    rw [List.map_cons, lowerByte_of_le (Nat.le_of_not_lt hascii), decode?.eq_def, decode?.eq_def]
    simp [hascii, hlow]
  | case5 a hascii hlow b rest ih ihs =>
    rw [List.map_cons, List.map_cons, lowerByte_of_le (Nat.le_of_not_lt hascii), decode?.eq_def,
      decode?.eq_def (a :: b :: rest)]
    dsimp only
    rw [if_neg hascii, if_neg hascii, if_neg hlow, if_neg hlow]
    -- The first byte says how many more belong to the character.
    refine bind_continuation?_lowerByte fun x => ?_
    by_cases htwo : a.toNat < 0xE0
    · rw [if_pos htwo, if_pos htwo, ih, map_toLower_bind_scalar? (by decide)]
    · rw [if_neg htwo, if_neg htwo]
      cases rest with
      | nil => rfl
      | cons c rest =>
        obtain ⟨ih, ihs⟩ := ihs
        refine bind_continuation?_lowerByte fun y => ?_
        by_cases hthree : a.toNat < 0xF0
        · rw [if_pos hthree, if_pos hthree, ih, map_toLower_bind_scalar? (by decide)]
        · rw [if_neg hthree, if_neg hthree]
          cases rest with
          | nil => rfl
          | cons d rest =>
            refine bind_continuation?_lowerByte fun z => ?_
            rw [ihs, map_toLower_bind_scalar? (by decide)]

end Utf8

/-! ### Encoded bytes -/

namespace Percent

open Utf8 (lowerByte)

/-- The digits of an encoded byte may be in either case. -/
theorem hexPair?_lowerByte (x y : UInt8) : hexPair? (lowerByte x) (lowerByte y) = hexPair? x y := by
  have hdigit (x : UInt8) : Numeral.hexDigit? (Char.ofNat (lowerByte x).toNat) =
      Numeral.hexDigit? (Char.ofNat x.toNat) := by
    revert x
    rw [Utf8.forall_byte_iff]
    decide +kernel
  rw [hexPair?, hexPair?, hdigit, hdigit]

theorem lowerByte_eq_percent (b : UInt8) : lowerByte b = 0x25 ↔ b = 0x25 := by
  revert b
  rw [Utf8.forall_byte_iff]
  decide +kernel

/-- Decoded bytes are the same in lower case if the text was in lower case before. -/
theorem lower_decode (bs : Bytes) :
    (decode (bs.map lowerByte)).map lowerByte = (decode bs).map lowerByte := by
  induction bs using decode.induct with
  | case1 => rfl
  | case2 b x y rest v hpair ih =>
    have hlower : (if lowerByte b = 0x25 then hexPair? (lowerByte x) (lowerByte y) else none) =
        some v := by
      simpa only [lowerByte_eq_percent, hexPair?_lowerByte] using hpair
    simp only [List.map_cons, decode, hlower, hpair, ih]
  | case3 b x y rest hpair ih =>
    have hlower : (if lowerByte b = 0x25 then hexPair? (lowerByte x) (lowerByte y) else none) =
        none := by
      simpa only [lowerByte_eq_percent, hexPair?_lowerByte] using hpair
    rw [List.map_cons, List.map_cons] at ih
    simp only [List.map_cons, decode, hlower, hpair, ih, Utf8.lowerByte_lowerByte]
  | case4 b rest hshort ih =>
    have hlower : ∀ x y rest', rest.map lowerByte = x :: y :: rest' → False := by
      intro x y rest' heq
      obtain ⟨x', tail, rfl, -, htail⟩ := List.map_eq_cons_iff.1 heq
      obtain ⟨y', rest', rfl, -, -⟩ := List.map_eq_cons_iff.1 htail
      exact hshort x' y' rest' rfl
    rw [List.map_cons, decode, decode, List.map_cons, List.map_cons, ih, Utf8.lowerByte_lowerByte]
    · exact hshort
    · exact hlower

/-- A byte that is no percent sign is kept. -/
theorem decode_cons_of_ne {b : UInt8} (hb : b ≠ 0x25) (rest : Bytes) :
    decode (b :: rest) = b :: decode rest := by
  match rest with
  | [] => rfl
  | [_] => rfl
  | x :: y :: rest => rw [decode, if_neg hb]

theorem decode_append {bs : Bytes} (h : ∀ b ∈ bs, b ≠ 0x25) (rest : Bytes) :
    decode (bs ++ rest) = bs ++ decode rest := by
  induction bs with
  | nil => rfl
  | cons b bs ih =>
    obtain ⟨hb, hbs⟩ := List.forall_mem_cons.1 h
    rw [List.cons_append, decode_cons_of_ne hb, ih hbs, List.cons_append]

/-- The byte of a hexadecimal digit. -/
def hexByte (n : Nat) : UInt8 := UInt8.ofNat (Numeral.hexUpper n).toNat

/-- An encoded byte is decoded. -/
theorem decode_encodeByte (b : UInt8) (rest : Bytes) :
    decode (Utf8.encode (encodeByte b) ++ rest) = b :: decode rest := by
  have hbytes : Utf8.encode (encodeByte b) = [0x25, hexByte (b.toNat / 16), hexByte b.toNat] := by
    revert b
    rw [Utf8.forall_byte_iff]
    decide +kernel
  have hpair : hexPair? (hexByte (b.toNat / 16)) (hexByte b.toNat) = some b := by
    revert b
    rw [Utf8.forall_byte_iff]
    decide +kernel
  rw [hbytes]
  simp [decode, hpair]

theorem decode_encodeBytes (bs rest : Bytes) :
    decode (Utf8.encode (bs.flatMap encodeByte) ++ rest) = bs ++ decode rest := by
  induction bs with
  | nil => rfl
  | cons b bs ih =>
    rw [List.flatMap_cons, Utf8.encode_append, List.append_assoc, decode_encodeByte, ih,
      List.cons_append]

/-- Whatever characters are encoded, the bytes of a text without percent sign are found again. -/
theorem decode_encode (inSet : Char → Bool) {cs : List Char} (h : '%' ∉ cs) :
    decode (Utf8.encode (encode inSet cs)) = Utf8.encode cs := by
  induction cs with
  | nil => rfl
  | cons c cs ih =>
    obtain ⟨hne, hcs⟩ := not_or.1 (mt List.mem_cons.2 h)
    rw [encode, List.flatMap_cons, ← encode, Utf8.encode_append, Utf8.encode_cons, encodeChar]
    split
    next => rw [decode_encodeBytes, ih hcs]
    next =>
      have hsingle : Utf8.encode [c] = Utf8.encodeChar c := List.append_nil _
      have hbytes : ∀ b ∈ Utf8.encodeChar c, b ≠ 0x25 :=
        fun b hb => Utf8.ne_percent_of_mem_encodeChar (Ne.symm hne) hb
      rw [hsingle, decode_append hbytes, ih hcs]

end Percent

/-! ### Canonical form -/

namespace Domain

theorem mapChar?_toLower (c : Char) : mapChar? c.toLower = mapChar? c := by
  by_cases hc : c.toNat < 0x80
  · have hall : ∀ n < 0x80, (Char.ofNat n).toLower.toNat < 0x80 ∧
        (Char.ofNat n).toLower.toLower = (Char.ofNat n).toLower := by decide +kernel
    obtain ⟨hlower, hagain⟩ := hall _ hc
    rw [Char.ofNat_toNat] at hlower hagain
    rw [mapChar?, mapChar?, if_pos hlower, if_pos hc, hagain]
  · rw [Utf8.toLower_of_le (Nat.le_of_not_lt hc)]

theorem mapText?_toLower (cs : List Char) : mapText? (Text.toLower cs) = mapText? cs := by
  induction cs with
  | nil => rfl
  | cons c cs ih =>
    rw [Text.toLower, List.map_cons, ← Text.toLower, mapText?, mapText?, mapChar?_toLower, ih]

/-- The canonical form does not depend on letter case. -/
theorem toAscii?_toLower (cs : List Char) : toAscii? (Text.toLower cs) = toAscii? cs := by
  rw [toAscii?, mapText?_toLower, toAscii?]

end Domain

/-! ### Hosts -/

namespace Host

/-- The bytes that a host text stands for. -/
def bytes (cs : List Char) : Bytes := Percent.decode (Utf8.encode cs)

/-- The domain that the host of a special scheme is read as; a text in brackets is no domain. -/
def domain? (cs : List Char) : Option (List Char) :=
  if cs.head? = some '[' then none else (Utf8.decode? (bytes cs)).bind Domain.toAscii?

/-- Two host texts stand for the same bytes up to the case of letters, and none or both of them are
in brackets. -/
structure AreSpellings (cs cs' : List Char) : Prop where
  bytes_eq : (bytes cs).map Utf8.lowerByte = (bytes cs').map Utf8.lowerByte
  bracket_iff : cs.head? = some '[' ↔ cs'.head? = some '['

variable {cs cs' : List Char}

theorem head?_toLower : (Text.toLower cs).head? = some '[' ↔ cs.head? = some '[' := by
  cases cs with
  | nil => rfl
  | cons c cs =>
    have hsame : c.toLower = '[' ↔ c = '[' := by
      by_cases hupper : c.isUpper = true
      · have hlower := Text.isLower_toLower_of_isUpper hupper
        constructor <;> rintro heq
        · rw [heq] at hlower
          exact absurd hlower (by decide)
        · rw [heq] at hupper
          exact absurd hupper (by decide)
      · rw [Text.toLower_of_not_isUpper hupper]
    simpa [Text.toLower] using hsame

/-- Texts in different letter case are spellings of one another. -/
theorem AreSpellings.of_toLower_eq (h : Text.toLower cs = Text.toLower cs') :
    AreSpellings cs cs' where
  bytes_eq := by
    rw [bytes, bytes, ← Percent.lower_decode, ← Percent.lower_decode (Utf8.encode cs'),
      ← Utf8.encode_toLower, ← Utf8.encode_toLower, h]
  bracket_iff := by rw [← head?_toLower, h, head?_toLower]

/-- A text with some of its characters encoded is a spelling of the text. -/
theorem AreSpellings.encode (inSet : Char → Bool) (h : '%' ∉ cs) (hname : cs.head? ≠ some '[') :
    AreSpellings (Percent.encode inSet cs) cs where
  bytes_eq := by
    have hown : bytes cs = Utf8.encode cs := Percent.decode_eq_self fun b hb => by
      obtain ⟨c, hc, hb⟩ := List.mem_flatMap.1 hb
      exact Utf8.ne_percent_of_mem_encodeChar (fun heq => h (heq ▸ hc)) hb
    rw [hown, bytes, Percent.decode_encode inSet h]
  bracket_iff := by
    refine iff_of_false (fun hbracket => ?_) hname
    cases cs with
    | nil => cases hbracket
    | cons c cs =>
      rcases Percent.head?_encode_cons inSet c cs with hhead | hhead
      · exact hname (hhead.symm.trans hbracket)
      · exact absurd (hhead.symm.trans hbracket) (by decide)

/-- All spellings are read as the same domain. -/
theorem AreSpellings.domain?_eq (h : AreSpellings cs cs') : domain? cs = domain? cs' := by
  have hlower (cs : List Char) : (Utf8.decode? (bytes cs)).bind Domain.toAscii? =
      (Utf8.decode? ((bytes cs).map Utf8.lowerByte)).bind Domain.toAscii? := by
    rw [Utf8.decode?_lower]
    cases Utf8.decode? (bytes cs) with
    | none => rfl
    | some text => exact (Domain.toAscii?_toLower text).symm
  -- The bytes differ in the case of letters only, and the mapping takes that away.
  rw [domain?, domain?, hlower, h.bytes_eq, ← hlower]
  exact if_congr h.bracket_iff rfl rfl

/-- An ordinary domain is read as itself. -/
theorem domain?_of_isOrdinary (h : Domain.IsOrdinary cs) : domain? cs = some cs := by
  have hbracket : cs.head? ≠ some '[' := fun hhead =>
    absurd (h.plain '[' (List.mem_of_head? hhead)) (by decide)
  rw [domain?, if_neg hbracket, bytes, Domain.decode_encode_of_isPlain h.plain,
    Domain.decode?_encode_of_isPlain h.plain, Option.bind_some, Domain.toAscii?_of_isOrdinary h]

end Host

end Gatehouse
