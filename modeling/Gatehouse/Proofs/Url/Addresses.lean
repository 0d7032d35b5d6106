import Gatehouse.Proofs.Text.Cutting
import Gatehouse.Proofs.Text.Numerals
import Gatehouse.Url.Host
import Mathlib.Data.List.TakeWhile

/-!
# Addresses in URLs

The text of an address is read back as the address. An address of version 6 is written with its
first longest run of zeros left out; the reader puts the zeros back where the two colons stand,
as many as are missing. The parts of an address of version 4 are written without leading zeros,
so none of them is taken for an octal number.

## Main results

* `Ipv6.exists_longestRun`: the run that is left out consists of zeros.
* `Ipv6.ofBracketed?_groupsText`: an address of version 6 is read back.
* `Ipv4.ofDomain?_text`: an address of version 4 is read back.
-/

namespace Gatehouse

/-- Numbers that are put together consist of digits and the separator. -/
theorem Text.mem_joinWith_toDigits {base : Nat} (hbase : 1 < base) {sep : Char} (ns : List Nat)
    {c : Char} (hc : c ∈ joinWith [sep] (ns.map (Nat.toDigits base))) :
    c = sep ∨ ∃ d < base, c = Nat.digitChar d := by
  rcases mem_joinWith hc with hsep | ⟨part, hpart, hc⟩
  · exact .inl (List.mem_singleton.1 hsep)
  · obtain ⟨n, -, rfl⟩ := List.mem_map.1 hpart
    exact .inr (Numeral.exists_digit_of_mem_toDigits hbase hc)

/-! ### Addresses of version 6 -/

namespace Ipv6

theorem eq_replicate_append_dropWhile (gs : List Nat) :
    gs = List.replicate (leadingZeros gs) 0 ++ gs.dropWhile (· == 0) := by
  have hzeros : gs.takeWhile (· == 0) = List.replicate (leadingZeros gs) 0 :=
    List.eq_replicate_iff.2 ⟨rfl, fun g hg => by simpa using List.mem_takeWhile_imp hg⟩
  rw [← hzeros, List.takeWhile_append_dropWhile]

/-- The longest run stands somewhere in the list and consists of zeros. -/
theorem exists_longestRun (start : Nat) (gs : List Nat) :
    ∃ front back, gs = front ++ List.replicate (longestRun start gs).2 0 ++ back ∧
      (longestRun start gs).1 = start + front.length := by
  induction gs generalizing start with
  | nil => exact ⟨[], [], rfl, rfl⟩
  | cons g gs ih =>
    obtain ⟨front, back, hgs, hstart⟩ := ih (start + 1)
    unfold longestRun
    extract_lets here later
    split
    next => exact ⟨[], (g :: gs).dropWhile (· == 0), eq_replicate_append_dropWhile _, rfl⟩
    next =>
      refine ⟨g :: front, back, congrArg (g :: ·) hgs, ?_⟩
      rw [hstart, List.length_cons]
      omega

/-- An address is written with all its groups, or without a run of zeros. -/
theorem groupsText_cases (x : Ipv6) :
    x.groupsText = joinGroups x.groups ∨
      ∃ front n back, 2 ≤ n ∧ x.groups = front ++ List.replicate n 0 ++ back ∧
        x.groupsText = joinGroups front ++ ':' :: ':' :: joinGroups back := by
  obtain ⟨front, back, hgroups, hstart⟩ := exists_longestRun 0 x.groups
  cases hrun : longestRun 0 x.groups with
  | mk start n =>
    rw [hrun] at hgroups hstart
    dsimp only at hgroups hstart
    rw [Nat.zero_add] at hstart
    rw [groupsText, hrun]
    dsimp only
    split
    next hlong =>
      refine .inr ⟨front, n, back, hlong, hgroups, ?_⟩
      have hfront : x.groups.take start = front := by
        rw [hgroups, hstart, List.append_assoc, List.take_left]
      have hback : x.groups.drop (start + n) = back := by
        have hlength : start + n = (front ++ List.replicate n 0).length := by simp [hstart]
        rw [hgroups, hlength, List.drop_left]
      rw [hfront, hback, List.append_assoc]
      rfl
    next => exact .inl rfl

/-- The text of an address has colons and hexadecimal digits. -/
theorem mem_groupsText {x : Ipv6} {c : Char} (hc : c ∈ x.groupsText) :
    c = ':' ∨ ∃ d < 16, c = Nat.digitChar d := by
  have hjoin : ∀ gs, c ∈ joinGroups gs → c = ':' ∨ ∃ d < 16, c = Nat.digitChar d :=
    fun gs hc => Text.mem_joinWith_toDigits (by decide) gs hc
  rcases x.groupsText_cases with htext | ⟨front, n, back, -, -, htext⟩
  · exact hjoin _ (htext ▸ hc)
  · rw [htext, List.mem_append, List.mem_cons, List.mem_cons] at hc
    rcases hc with hc | hc | hc | hc
    · exact hjoin front hc
    · exact .inl hc
    · exact .inl hc
    · exact hjoin back hc

/-! #### Reading groups -/

theorem isSome_hexDigit?_of_mem_hexDigits {g : Nat} {c : Char} (hc : c ∈ Numeral.hexDigits g) :
    (Numeral.hexDigit? c).isSome = true := by
  obtain ⟨d, hd, rfl⟩ := Numeral.exists_digit_of_mem_toDigits (by decide) hc
  rw [Numeral.hexDigit?_digitChar hd]
  rfl

/-- A group is read up to the first character that is no digit. -/
theorem hexPiece_hexDigits {g : Nat} (hg : g < 65536) (rest : List Char)
    (hrest : ∀ c ∈ rest.head?, Numeral.hexDigit? c = none) :
    hexPiece (Numeral.hexDigits g ++ rest) = ((Numeral.hexDigits g).length, g, rest) := by
  have hlength : (Numeral.hexDigits g).length ≤ 4 :=
    (Nat.length_toDigits_le_iff (by decide) (by decide)).2 hg
  have hdigits : ((Numeral.hexDigits g ++ rest).take 4).takeWhile
      (fun c => (Numeral.hexDigit? c).isSome) = Numeral.hexDigits g := by
    rw [List.take_append, List.take_of_length_le hlength, List.takeWhile_append_of_pos
      fun c hc => isSome_hexDigit?_of_mem_hexDigits hc]
    cases rest with
    | nil => simp
    | cons c rest =>
      cases 4 - (Numeral.hexDigits g).length with
      | zero => simp
      | succ n => simp [hrest c rfl]
  have hvalue : Numeral.valueIn 16 0 (Numeral.hexDigits g) = g :=
    Numeral.valueIn_toDigits (by decide) (by decide) g
  rw [hexPiece, hdigits, List.drop_left, ← Numeral.valueIn, hvalue]

variable {room g : Nat} {seen : List Nat} {gap : Option Nat}

theorem hexDigits_append_ne_nil (g : Nat) (rest : List Char) : Numeral.hexDigits g ++ rest ≠ [] :=
  fun h => Nat.toDigits_ne_nil (List.append_eq_nil_iff.1 h).1

/-- A group does not start with a colon. -/
theorem hexDigits_append_ne_colon (g : Nat) (rest cs : List Char) :
    Numeral.hexDigits g ++ rest ≠ ':' :: cs := by
  intro h
  obtain ⟨d, ds, hds⟩ :=
    List.exists_cons_of_ne_nil (l := Numeral.hexDigits g) Nat.toDigits_ne_nil
  rw [hds, List.cons_append, List.cons.injEq] at h
  have hd := isSome_hexDigit?_of_mem_hexDigits (hds ▸ List.mem_cons_self)
  rw [h.1] at hd
  exact absurd hd (by decide)

theorem readPieces_group (hg : g < 65536) {rest : List Char} (hrest : rest ≠ []) :
    readPieces (room + 1) seen gap (Numeral.hexDigits g ++ ':' :: rest) =
      readPieces room (seen ++ [g]) gap rest := by
  obtain ⟨c, rest, rfl⟩ := List.exists_cons_of_ne_nil hrest
  have hpiece := hexPiece_hexDigits hg (':' :: c :: rest)
    fun d hd => by rw [← Option.mem_some_iff.1 hd]; rfl
  rw [readPieces, hpiece]
  · exact if_neg Nat.length_toDigits_pos.ne'
  · exact hexDigits_append_ne_nil g _
  · exact hexDigits_append_ne_colon g _

theorem readPieces_last (hg : g < 65536) :
    readPieces (room + 1) seen gap (Numeral.hexDigits g) = some (seen ++ [g], gap) := by
  have hpiece := hexPiece_hexDigits hg [] fun d hd => absurd hd (Option.not_mem_none d)
  rw [← List.append_nil (Numeral.hexDigits g), readPieces, hpiece]
  · exact hexDigits_append_ne_nil g _
  · exact hexDigits_append_ne_colon g _

theorem joinGroups_cons (g : Nat) {gs : List Nat} (hgs : gs ≠ []) :
    joinGroups (g :: gs) = Numeral.hexDigits g ++ ':' :: joinGroups gs := by
  rw [joinGroups, List.map_cons, Text.joinWith_cons (mt List.map_eq_nil_iff.1 hgs),
    List.append_assoc]
  rfl

theorem joinGroups_ne_nil {gs : List Nat} (hgs : gs ≠ []) : joinGroups gs ≠ [] := by
  obtain ⟨g, gs, rfl⟩ := List.exists_cons_of_ne_nil hgs
  by_cases hnil : gs = []
  · subst hnil
    exact Nat.toDigits_ne_nil
  · rw [joinGroups_cons g hnil]
    simp

/-- Neither do several groups. -/
theorem joinGroups_append_ne_colon {gs : List Nat} (hgs : gs ≠ []) (rest cs : List Char) :
    joinGroups gs ++ rest ≠ ':' :: cs := by
  obtain ⟨g, gs, rfl⟩ := List.exists_cons_of_ne_nil hgs
  by_cases hnil : gs = []
  · subst hnil
    exact hexDigits_append_ne_colon g rest cs
  · rw [joinGroups_cons g hnil, List.append_assoc]
    exact hexDigits_append_ne_colon g _ cs

/-- Groups up to the end are read as they were written. -/
theorem readPieces_joinGroups {gs : List Nat} (hgs : ∀ g ∈ gs, g < 65536)
    (hroom : gs.length ≤ room) :
    readPieces room seen gap (joinGroups gs) = some (seen ++ gs, gap) := by
  induction gs generalizing room seen with
  | nil =>
    rw [List.append_nil]
    exact readPieces.eq_1 room seen gap
  | cons g gs ih =>
    obtain ⟨hg, hothers⟩ := List.forall_mem_cons.1 hgs
    obtain ⟨room, rfl⟩ := Nat.exists_eq_add_of_le' (Nat.zero_lt_of_lt hroom)
    by_cases hnil : gs = []
    · subst hnil
      exact readPieces_last hg
    · rw [joinGroups_cons g hnil, readPieces_group hg (joinGroups_ne_nil hnil),
        ih hothers (Nat.le_of_succ_le_succ hroom), List.append_assoc]
      rfl

/-- Groups in front of a further colon are read as they were written. -/
theorem readPieces_joinGroups_append {gs : List Nat} (hne : gs ≠ []) (hgs : ∀ g ∈ gs, g < 65536)
    {rest : List Char} (hrest : rest ≠ []) :
    readPieces (gs.length + room) seen gap (joinGroups gs ++ ':' :: rest) =
      readPieces room (seen ++ gs) gap rest := by
  induction gs generalizing seen with
  | nil => exact absurd rfl hne
  | cons g gs ih =>
    obtain ⟨hg, hothers⟩ := List.forall_mem_cons.1 hgs
    have hlength : (g :: gs).length + room = gs.length + room + 1 := by
      rw [List.length_cons]
      omega
    rw [hlength]
    by_cases hnil : gs = []
    · subst hnil
      rw [List.length_nil, Nat.zero_add]
      exact readPieces_group hg hrest
    · rw [joinGroups_cons g hnil, List.append_assoc, List.cons_append,
        readPieces_group hg (by simp), ih hnil hothers, List.append_assoc]
      rfl

/-! #### Whole addresses -/

theorem lt_of_mem_groups {x : Ipv6} (hg : g ∈ x.groups) : g < 65536 := by
  obtain ⟨n, -, rfl⟩ := List.mem_map.1 hg
  exact n.toNat_lt

theorem ofGroups?_groups (x : Ipv6) : ofGroups? x.groups = some x := by
  simp [groups, ofGroups?]

theorem length_of_groups {x : Ipv6} {front back : List Nat} {n : Nat}
    (hgroups : x.groups = front ++ List.replicate n 0 ++ back) :
    front.length + n + back.length = 8 := by
  have h := congrArg List.length hgroups
  simp only [List.length_append, List.length_replicate] at h
  exact h.symm

/-- The zeros that are missing are put back behind the first of them. -/
theorem fill?_gap (x : Ipv6) {front back : List Nat} {n : Nat} (hn : 1 ≤ n)
    (hgroups : x.groups = front ++ List.replicate n 0 ++ back) :
    fill? (front ++ [0] ++ back) (some (front.length + 1)) = some x := by
  have hlength := length_of_groups hgroups
  have hsplit : (front ++ [0]).length = front.length + 1 := by simp
  have hmissing : 8 - (front ++ [0] ++ back).length = n - 1 := by
    simp only [List.length_append, List.length_singleton]
    omega
  have hzeros : List.replicate n 0 = 0 :: List.replicate (n - 1) 0 := by
    rw [← List.replicate_succ, Nat.sub_add_cancel hn]
  rw [fill?, hmissing, ← hsplit, List.take_left, List.drop_left, ← ofGroups?_groups x, hgroups,
    hzeros]
  simp

/-- An address that starts with a group is read group by group. -/
theorem ofBracketed?_of_readPieces {gs : List Nat} (hgs : gs ≠ []) {rest : List Char}
    (hread : readPieces 8 [] none (joinGroups gs ++ rest) = some (seen, gap)) :
    ofBracketed? (joinGroups gs ++ rest) = fill? seen gap := by
  rw [ofBracketed?]
  · rw [hread]
    rfl
  · exact fun cs => joinGroups_append_ne_colon hgs rest _
  · exact fun cs => joinGroups_append_ne_colon hgs rest _

/-- An address of version 6 is read back. -/
theorem ofBracketed?_groupsText (x : Ipv6) : ofBracketed? x.groupsText = some x := by
  rcases groupsText_cases x with htext | ⟨front, n, back, hn, hgroups, htext⟩
  · have hread : readPieces 8 [] none (joinGroups x.groups) = some (x.groups, none) :=
      readPieces_joinGroups (fun g hg => lt_of_mem_groups hg) (Nat.le_refl 8)
    rw [← List.append_nil (joinGroups x.groups)] at hread htext
    have hne : x.groups ≠ [] := List.cons_ne_nil _ _
    rw [htext, ofBracketed?_of_readPieces hne hread]
    exact ofGroups?_groups x
  · have hlength : front.length + n + back.length = 8 := length_of_groups hgroups
    have hlt : ∀ g ∈ front ++ List.replicate n 0 ++ back, g < 65536 :=
      fun g hg => lt_of_mem_groups (hgroups.symm ▸ hg)
    have hbehind : readPieces (8 - front.length - 1) (front ++ [0]) (some (front.length + 1))
        (joinGroups back) = some (front ++ [0] ++ back, some (front.length + 1)) :=
      readPieces_joinGroups (fun g hg => hlt g (List.mem_append_right _ hg)) (by omega)
    have hfill := fill?_gap x (Nat.le_of_succ_le hn) hgroups
    rw [htext]
    by_cases hnil : front = []
    · subst hnil
      have hread : readPieces 7 [0] (some 1) (joinGroups back) = some ([0] ++ back, some 1) :=
        hbehind
      rw [show joinGroups [] = [] from rfl, List.nil_append, ofBracketed?, hread]
      exact hfill
    · have hread : readPieces 8 [] none (joinGroups front ++ ':' :: ':' :: joinGroups back) =
          some (front ++ [0] ++ back, some (front.length + 1)) := by
        have hroom : 8 = front.length + (8 - front.length - 1 + 1) := by omega
        have hfront : ∀ g ∈ front, g < 65536 := fun g hg =>
          hlt g (List.mem_append_left _ (List.mem_append_left _ hg))
        rw [hroom, readPieces_joinGroups_append hnil hfront (by simp), List.nil_append, readPieces]
        exact hbehind
      rw [ofBracketed?_of_readPieces hnil hread]
      exact hfill

end Ipv6

/-! ### Addresses of version 4 -/

namespace Ipv4

/-- A byte is written without leading zero, so it is read as the decimal number that it is. -/
theorem number?_digits (b : UInt8) : number? (Numeral.digits b.toNat) = some b.toNat := by
  have hall : ∀ n < 256, number? (Numeral.digits n) = some n := by decide +kernel
  exact hall _ b.toNat_lt

/-- The text of an address has points and decimal digits. -/
theorem mem_text {x : Ipv4} {c : Char} (hc : c ∈ x.text) :
    c = '.' ∨ ∃ d < 10, c = Nat.digitChar d :=
  Text.mem_joinWith_toDigits (by decide) [x.a.toNat, x.b.toNat, x.c.toNat, x.d.toNat] hc

/-- The parts of the text of an address. -/
def parts (x : Ipv4) : List (List Char) :=
  [x.a, x.b, x.c, x.d].map fun n => Numeral.digits n.toNat

theorem isSome_digit?_of_mem_parts {x : Ipv4} {part : List Char} (hpart : part ∈ x.parts)
    {c : Char} (hc : c ∈ part) : (Numeral.digit? c).isSome = true := by
  obtain ⟨b, -, rfl⟩ := List.mem_map.1 hpart
  exact Numeral.isSome_digit?_of_mem_digits hc

theorem splitOn_text (x : Ipv4) : Text.splitOn '.' x.text = x.parts :=
  Text.splitOn_joinWith (List.cons_ne_nil _ _) fun _ hpart hdot =>
    absurd (isSome_digit?_of_mem_parts hpart hdot) (by decide)

theorem text_ne_nil (x : Ipv4) : x.text ≠ [] := fun hnil => by
  have hparts := congrArg List.length x.splitOn_text
  rw [hnil] at hparts
  exact absurd hparts (show 1 ≠ 4 by decide)

theorem partsOf_text (x : Ipv4) : partsOf x.text = x.parts := by
  rw [partsOf, splitOn_text]
  exact if_neg fun h => Numeral.digits_ne_nil _ (Option.some.inj h)

theorem endsInNumber_text (x : Ipv4) : endsInNumber x.text = true := by
  have hlast : x.parts.getLast? = some (Numeral.digits x.d.toNat) := rfl
  obtain ⟨c, cs, hcs⟩ := List.exists_cons_of_ne_nil (Numeral.digits_ne_nil x.d.toNat)
  have hdigits : (c :: cs).all (fun c => (Numeral.digit? c).isSome) = true :=
    List.all_eq_true.2 fun d hd => Numeral.isSome_digit?_of_mem_digits (hcs.symm ▸ hd)
  rw [endsInNumber, partsOf_text, hlast, hcs]
  dsimp only
  rw [hdigits, Bool.true_or]

theorem ofNat_eq_of_mod {n : Nat} {b : UInt8} (h : n % 256 = b.toNat) : UInt8.ofNat n = b :=
  UInt8.toNat_inj.1 (by rw [UInt8.toNat_ofNat', h])

/-- The bytes of an address are the digits of its value. -/
theorem ofNat_value (x : Ipv4) :
    ofNat (x.a.toNat * 16777216 + (x.b.toNat * 65536 + (x.c.toNat * 256 + x.d.toNat))) = x := by
  have ha := x.a.toNat_lt
  have hb := x.b.toNat_lt
  have hc := x.c.toNat_lt
  have hd := x.d.toNat_lt
  rw [ofNat, ofNat_eq_of_mod (b := x.a) (by omega), ofNat_eq_of_mod (b := x.b) (by omega),
    ofNat_eq_of_mod (b := x.c) (by omega), ofNat_eq_of_mod (b := x.d) (by omega)]

/-- An address of version 4 is read back. -/
theorem ofDomain?_text (x : Ipv4) : ofDomain? x.text = some x := by
  have hnumbers : numbers? x.parts = some [x.a.toNat, x.b.toNat, x.c.toNat, x.d.toNat] := by
    simp [parts, numbers?, number?_digits]
  have hvalue : valueOf? 0 [x.a.toNat, x.b.toNat, x.c.toNat, x.d.toNat] =
      some (x.a.toNat * 16777216 + (x.b.toNat * 65536 + (x.c.toNat * 256 + x.d.toNat))) := by
    simp [valueOf?, x.a.toNat_lt, x.b.toNat_lt, x.c.toNat_lt, x.d.toNat_lt]
  rw [ofDomain?, partsOf_text, hnumbers, Option.bind_some, hvalue, Option.map_some, ofNat_value]

end Ipv4

end Gatehouse
