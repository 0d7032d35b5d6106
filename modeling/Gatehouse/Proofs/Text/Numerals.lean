import Gatehouse.Text.Numeral
import Mathlib.Data.List.Basic

/-!
# Numerals that have been written

The digits that a number is written with denote that number, in base ten as well as in any base
up to sixteen, and a numeral that has been read lies below the bound that it was read with. A text
that is no numeral of the range is rejected for what is wrong first, from the left: there is nothing
to read, a character is no digit, or with it the number leaves the range.

## Main definitions

* `Numeral.valueIn`: the number that digits denote on top of the digits in front of them.
* `Numeral.Denotes`: the texts of a number.
* `Numeral.Stops`, `Numeral.FirstFault`: what is wrong with a text, at the first character where
  something is.

## Main results

* `Numeral.valueIn_toDigits`: written digits denote the number.
* `Numeral.read_digits`: a written number below the bound is read back.
* `Numeral.lt_of_read`: what has been read lies below the bound.
* `Numeral.read_eq_ok_iff`: the texts that a number is read from.
* `Numeral.read_eq_error_iff`: the texts that are rejected, and the fault of each.
-/

namespace Gatehouse.Numeral

theorem hexDigit?_digitChar {d : Nat} (hd : d < 16) : hexDigit? (Nat.digitChar d) = some d := by
  have hall : ∀ d < 16, hexDigit? (Nat.digitChar d) = some d := by decide
  exact hall d hd

theorem digit?_digitChar {d : Nat} (hd : d < 10) : digit? (Nat.digitChar d) = some d := by
  have hall : ∀ d < 10, digit? (Nat.digitChar d) = some d := by decide
  exact hall d hd

/-- The number that digits of a base denote on top of the digits in front of them. -/
def valueIn (base : Nat) (acc : Nat) (cs : List Char) : Nat :=
  cs.foldl (fun acc c => acc * base + (hexDigit? c).getD 0) acc

theorem valueIn_cons (base acc : Nat) (c : Char) (cs : List Char) :
    valueIn base acc (c :: cs) = valueIn base (acc * base + (hexDigit? c).getD 0) cs := rfl

theorem le_valueIn {base : Nat} (hbase : 0 < base) (acc : Nat) (cs : List Char) :
    acc ≤ valueIn base acc cs := by
  induction cs generalizing acc with
  | nil => exact Nat.le_refl _
  | cons c cs ih =>
    calc acc ≤ acc * base := Nat.le_mul_of_pos_right acc hbase
      _ ≤ acc * base + (hexDigit? c).getD 0 := Nat.le_add_right _ _
      _ ≤ valueIn base acc (c :: cs) := ih _

/-- The digits that a number is written with denote it. -/
theorem valueIn_toDigits {base : Nat} (hlow : 1 < base) (hhigh : base ≤ 16) (n : Nat) :
    valueIn base 0 (Nat.toDigits base n) = n := by
  induction n using Nat.base_induction base hlow with
  | single d hd =>
    rw [Nat.toDigits_of_lt_base hd, valueIn_cons, hexDigit?_digitChar (by omega)]
    simp [valueIn]
  | digit n d hd hn ih =>
    rw [← Nat.toDigits_append_toDigits hlow hn hd, Nat.toDigits_of_lt_base hd, valueIn,
      List.foldl_append]
    rw [valueIn] at ih
    rw [ih, List.foldl_cons, List.foldl_nil, hexDigit?_digitChar (by omega), Option.getD_some,
      Nat.mul_comm]

theorem toDigits_injective {base : Nat} (hlow : 1 < base) (hhigh : base ≤ 16) :
    Function.Injective (Nat.toDigits base) :=
  Function.LeftInverse.injective (valueIn_toDigits hlow hhigh)

/-- Different numbers are written differently. -/
theorem toString_injective : Function.Injective (toString : Nat → String) := fun _ _ h =>
  toDigits_injective (by decide) (by decide) (String.ofList_injective h)

/-- The digits of a number are digits of its base. -/
theorem exists_digit_of_mem_toDigits {base : Nat} (hbase : 1 < base) {n : Nat} {c : Char}
    (hc : c ∈ Nat.toDigits base n) : ∃ d < base, c = Nat.digitChar d := by
  induction n using Nat.base_induction base hbase with
  | single d hd =>
    rw [Nat.toDigits_of_lt_base hd, List.mem_singleton] at hc
    exact ⟨d, hd, hc⟩
  | digit n d hd hn ih =>
    rw [← Nat.toDigits_append_toDigits hbase hn hd, Nat.toDigits_of_lt_base hd, List.mem_append,
      List.mem_singleton] at hc
    rcases hc with hc | hc
    · exact ih hc
    · exact ⟨d, hd, hc⟩

/-! ### Decimal numerals -/

/-- A decimal digit is one of the hexadecimal digits, of the same value. -/
theorem hexDigit?_of_digit? {c : Char} {d : Nat} (h : digit? c = some d) :
    hexDigit? c = some d := by
  unfold digit? at h
  split at h
  next hc => rw [hexDigit?, if_pos hc, ← h]
  next => cases h

/-- Digits are read as long as the number that they denote lies below the bound. -/
theorem readDigits_eq_ok {bound acc : Nat} {cs : List Char}
    (hdigits : ∀ c ∈ cs, (digit? c).isSome = true) (hbound : valueIn 10 acc cs < bound) :
    readDigits bound acc cs = .ok (valueIn 10 acc cs) := by
  induction cs generalizing acc with
  | nil => rfl
  | cons c cs ih =>
    obtain ⟨hc, hcs⟩ := List.forall_mem_cons.1 hdigits
    obtain ⟨d, hd⟩ := Option.isSome_iff_exists.1 hc
    have hvalue : valueIn 10 acc (c :: cs) = valueIn 10 (acc * 10 + d) cs := by
      rw [valueIn_cons, hexDigit?_of_digit? hd, Option.getD_some]
    rw [hvalue] at hbound ⊢
    have hnext : acc * 10 + d < bound := Nat.lt_of_le_of_lt (le_valueIn (by decide) _ _) hbound
    simp only [readDigits, hd, hnext, if_true]
    exact ih hcs hbound

/-- What is read stays below the bound. -/
theorem lt_of_readDigits {bound acc n : Nat} {cs : List Char} (hacc : acc < bound)
    (h : readDigits bound acc cs = .ok n) : n < bound := by
  induction cs generalizing acc with
  | nil =>
    cases h
    exact hacc
  | cons c cs ih =>
    rw [readDigits] at h
    split at h
    next => cases h
    next d _ =>
      split at h
      next hnext => exact ih hnext h
      next => cases h

theorem digits_ne_nil (n : Nat) : digits n ≠ [] := Nat.toDigits_ne_nil

theorem isSome_digit?_of_mem_digits {n : Nat} {c : Char} (hc : c ∈ digits n) :
    (digit? c).isSome = true := by
  obtain ⟨d, hd, rfl⟩ := exists_digit_of_mem_toDigits (by decide) hc
  rw [digit?_digitChar hd]
  rfl

/-- A written number below the bound is read back. -/
theorem read_digits {bound n : Nat} (h : n < bound) : read bound (digits n) = .ok n := by
  have hvalue : valueIn 10 0 (digits n) = n := valueIn_toDigits (by decide) (by decide) n
  have hread : readDigits bound 0 (digits n) = .ok n := by
    rw [readDigits_eq_ok (fun c hc => isSome_digit?_of_mem_digits hc) (hvalue.symm ▸ h), hvalue]
  have hsign : '+' ∉ digits n := fun hplus => absurd (isSome_digit?_of_mem_digits hplus) (by decide)
  unfold read
  split
  next hnil => exact absurd hnil (digits_ne_nil n)
  next hplus => exact absurd (hplus ▸ List.mem_singleton.2 rfl) hsign
  next hplus => exact absurd (hplus ▸ List.mem_cons_self) hsign
  next => exact hread

/-- What has been read lies below the bound. -/
theorem lt_of_read {bound n : Nat} {cs : List Char} (hbound : 0 < bound)
    (h : read bound cs = .ok n) : n < bound := by
  unfold read at h
  split at h
  next => cases h
  next => cases h
  next => exact lt_of_readDigits hbound h
  next => exact lt_of_readDigits hbound h

/-! ### The texts of a number -/

/-- A text of a number: one or more digits that denote it, with a plus sign in front or not. -/
def Denotes (cs : List Char) (n : Nat) : Prop :=
  ∃ digits, (cs = digits ∨ cs = '+' :: digits) ∧ digits ≠ [] ∧
    (∀ c ∈ digits, c.isDigit = true) ∧ valueIn 10 0 digits = n

/-- Behind a plus sign a number has its digits. -/
theorem denotes_plus_iff {cs : List Char} {n : Nat} :
    Denotes ('+' :: cs) n ↔
      cs ≠ [] ∧ (∀ c ∈ cs, c.isDigit = true) ∧ valueIn 10 0 cs = n := by
  constructor
  · rintro ⟨digits, rfl | heq, hne, hdigits, hvalue⟩
    · exact absurd (hdigits '+' (.head _)) (by decide)
    · cases heq
      exact ⟨hne, hdigits, hvalue⟩
  · exact fun h => ⟨cs, .inr rfl, h⟩

/-- Without a plus sign the text of a number consists of its digits. -/
theorem denotes_iff_of_head? {cs : List Char} {n : Nat} (h : cs.head? ≠ some '+') :
    Denotes cs n ↔ cs ≠ [] ∧ (∀ c ∈ cs, c.isDigit = true) ∧ valueIn 10 0 cs = n := by
  constructor
  · rintro ⟨digits, rfl | rfl, hdigits⟩
    · exact hdigits
    · exact absurd rfl h
  · exact fun h => ⟨cs, .inl rfl, h⟩

theorem isSome_digit?_iff {c : Char} : (digit? c).isSome = true ↔ c.isDigit = true := by
  have hclass : c.isDigit = true ↔ '0' ≤ c ∧ c ≤ '9' := by
    rw [Char.isDigit, Bool.and_eq_true, decide_eq_true_eq, decide_eq_true_eq]
    rfl
  rw [hclass, digit?]
  split
  next h => exact iff_of_true rfl h
  next h => exact iff_of_false Bool.false_ne_true h

/-- What is read is the number that the digits denote. -/
theorem eq_valueIn_of_readDigits {bound acc n : Nat} {cs : List Char}
    (h : readDigits bound acc cs = .ok n) :
    (∀ c ∈ cs, c.isDigit = true) ∧ valueIn 10 acc cs = n := by
  induction cs generalizing acc with
  | nil =>
    cases h
    exact ⟨List.forall_mem_nil _, rfl⟩
  | cons c cs ih =>
    rw [readDigits] at h
    split at h
    next => cases h
    next d hd =>
      split_ifs at h
      obtain ⟨hdigits, hvalue⟩ := ih h
      have hc : c.isDigit = true := isSome_digit?_iff.1 (hd ▸ rfl)
      refine ⟨List.forall_mem_cons.2 ⟨hc, hdigits⟩, ?_⟩
      rw [valueIn_cons, hexDigit?_of_digit? hd, Option.getD_some, hvalue]

/-- Digits are read just if they denote a number below the bound. -/
theorem readDigits_eq_ok_iff {bound n : Nat} {cs : List Char} (hne : cs ≠ []) :
    readDigits bound 0 cs = .ok n ↔
      (∀ c ∈ cs, c.isDigit = true) ∧ valueIn 10 0 cs = n ∧ n < bound := by
  constructor
  · intro h
    obtain ⟨hdigits, hvalue⟩ := eq_valueIn_of_readDigits h
    refine ⟨hdigits, hvalue, ?_⟩
    rcases Nat.eq_zero_or_pos bound with rfl | hbound
    · -- With nothing below the bound, the first digit is too large already.
      obtain ⟨c, rest, rfl⟩ := List.exists_cons_of_ne_nil hne
      rw [readDigits] at h
      split at h <;> simp at h
    · exact lt_of_readDigits hbound h
  · rintro ⟨hdigits, rfl, hbound⟩
    exact readDigits_eq_ok (fun c hc => isSome_digit?_iff.2 (hdigits c hc)) hbound

/-- A number is read from its texts, as long as it lies below the bound. -/
theorem read_eq_ok_iff {bound n : Nat} {cs : List Char} :
    read bound cs = .ok n ↔ Denotes cs n ∧ n < bound := by
  unfold read
  split
  next =>
    have hhead : ([] : List Char).head? ≠ some '+' := by simp
    simp [denotes_iff_of_head? hhead]
  next => simp [denotes_plus_iff]
  next rest hrest =>
    have hne : rest ≠ [] := fun h => hrest (h ▸ rfl)
    rw [readDigits_eq_ok_iff hne, denotes_plus_iff, and_iff_right hne, and_assoc]
  next hnil _ hplus =>
    have hhead : cs.head? ≠ some '+' := fun h => by
      obtain ⟨rest, rfl⟩ := List.head?_eq_some_iff.1 h
      exact hplus rest rfl
    rw [readDigits_eq_ok_iff hnil, denotes_iff_of_head? hhead, and_iff_right hnil, and_assoc]

/-- A text denotes one number only. -/
theorem Denotes.unique {cs : List Char} {m n : Nat} (hm : Denotes cs m) (hn : Denotes cs n) :
    m = n := by
  have hread {k : Nat} (hk : Denotes cs k) (hle : k ≤ max m n) :
      read (max m n + 1) cs = .ok k := read_eq_ok_iff.2 ⟨hk, Nat.lt_succ_of_le hle⟩
  have hleft := hread hm (Nat.le_max_left m n)
  have hright := hread hn (Nat.le_max_right m n)
  exact Except.ok.inj (hleft.symm.trans hright)

/-! ### What is wrong with a text -/

/-- Reading digits stops at a character behind digits of the value `acc`: it is no digit, or the
number is too large with it. -/
inductive Stops (bound acc : Nat) (c : Char) : Fault → Prop
  | invalidDigit (hc : c.isDigit = false) : Stops bound acc c .invalidDigit
  | tooLarge (hc : c.isDigit = true) (hvalue : bound ≤ valueIn 10 acc [c]) :
      Stops bound acc c .tooLarge

theorem exists_stops_of_readDigits {bound acc : Nat} {cs : List Char} {fault : Fault}
    (hacc : acc < bound) (h : readDigits bound acc cs = .error fault) :
    ∃ before c after, cs = before ++ c :: after ∧ (∀ d ∈ before, d.isDigit = true) ∧
      valueIn 10 acc before < bound ∧ Stops bound (valueIn 10 acc before) c fault := by
  induction cs generalizing acc with
  | nil => cases h
  | cons c cs ih =>
    rw [readDigits] at h
    split at h
    next hnone =>
      cases h
      have hc : c.isDigit = false := by
        rw [← Bool.not_eq_true, ← isSome_digit?_iff, hnone]
        exact Bool.false_ne_true
      exact ⟨[], c, cs, rfl, List.forall_mem_nil _, hacc, .invalidDigit hc⟩
    next d hd =>
      have hc : c.isDigit = true := isSome_digit?_iff.1 (hd ▸ rfl)
      have hvalue (ds : List Char) : valueIn 10 acc (c :: ds) = valueIn 10 (acc * 10 + d) ds := by
        rw [valueIn_cons, hexDigit?_of_digit? hd, Option.getD_some]
      split at h
      next hnext =>
        obtain ⟨before, b, after, rfl, hbefore, hbelow, hstops⟩ := ih hnext h
        refine ⟨c :: before, b, after, rfl, List.forall_mem_cons.2 ⟨hc, hbefore⟩, ?_, ?_⟩
        · rw [hvalue]
          exact hbelow
        · rw [hvalue]
          exact hstops
      next hnext =>
        cases h
        refine ⟨[], c, cs, rfl, List.forall_mem_nil _, hacc, .tooLarge hc ?_⟩
        show bound ≤ valueIn 10 acc [c]
        rw [hvalue]
        exact Nat.le_of_not_lt hnext

theorem Stops.readDigits_eq {bound acc : Nat} {before after : List Char} {c : Char} {fault : Fault}
    (hbefore : ∀ d ∈ before, d.isDigit = true) (hbelow : valueIn 10 acc before < bound)
    (h : Stops bound (valueIn 10 acc before) c fault) :
    readDigits bound acc (before ++ c :: after) = .error fault := by
  induction before generalizing acc with
  | nil =>
    rw [List.nil_append, readDigits]
    cases h with
    | invalidDigit hc =>
      have hnone : digit? c = none := by
        rw [← Option.not_isSome_iff_eq_none, isSome_digit?_iff, hc]
        exact Bool.false_ne_true
      rw [hnone]
    | tooLarge hc hvalue =>
      obtain ⟨d, hd⟩ := Option.isSome_iff_exists.1 (isSome_digit?_iff.2 hc)
      replace hvalue : bound ≤ acc * 10 + (hexDigit? c).getD 0 := hvalue
      rw [hexDigit?_of_digit? hd, Option.getD_some] at hvalue
      simp only [hd, Nat.not_lt.2 hvalue, if_false]
  | cons b before ih =>
    obtain ⟨hb, hrest⟩ := List.forall_mem_cons.1 hbefore
    obtain ⟨d, hd⟩ := Option.isSome_iff_exists.1 (isSome_digit?_iff.2 hb)
    rw [valueIn_cons, hexDigit?_of_digit? hd, Option.getD_some] at hbelow h
    have hnext : acc * 10 + d < bound := Nat.lt_of_le_of_lt (le_valueIn (by decide) _ _) hbelow
    rw [List.cons_append, readDigits]
    simp only [hd, hnext, if_true]
    exact ih hrest hbelow h

/-- Digits are rejected at the first character at which reading them stops. -/
theorem readDigits_eq_error_iff {bound : Nat} {cs : List Char} {fault : Fault}
    (hbound : 0 < bound) :
    readDigits bound 0 cs = .error fault ↔
      ∃ before c after, cs = before ++ c :: after ∧ (∀ d ∈ before, d.isDigit = true) ∧
        valueIn 10 0 before < bound ∧ Stops bound (valueIn 10 0 before) c fault := by
  constructor
  · exact exists_stops_of_readDigits hbound
  · rintro ⟨before, c, after, rfl, hbefore, hbelow, hstops⟩
    exact hstops.readDigits_eq hbefore hbelow

/-- The text behind the plus sign, if there is one in front. -/
def unsigned : List Char → List Char
  | '+' :: rest => rest
  | cs => cs

/-- What is wrong with a text at first, from the left. Nothing, and nothing behind a sign, are no
numbers; else the digits in front of some character denote a number below the bound, and reading
stops at that character. -/
inductive FirstFault (bound : Nat) : List Char → Fault → Prop
  | empty : FirstFault bound [] .empty
  | sign : FirstFault bound ['+'] .invalidDigit
  | stops {cs before after : List Char} {c : Char} {fault : Fault}
      (htext : unsigned cs = before ++ c :: after) (hbefore : ∀ d ∈ before, d.isDigit = true)
      (hbelow : valueIn 10 0 before < bound) (hstops : Stops bound (valueIn 10 0 before) c fault) :
      FirstFault bound cs fault

/-- A text is rejected for what is wrong with it at first. -/
theorem read_eq_error_iff {bound : Nat} {cs : List Char} {fault : Fault} (hbound : 0 < bound) :
    read bound cs = .error fault ↔ FirstFault bound cs fault := by
  have hdigits {rest : List Char} (hrest : unsigned cs = rest) (hnil : cs ≠ [])
      (hsign : cs ≠ ['+']) :
      readDigits bound 0 rest = .error fault ↔ FirstFault bound cs fault := by
    rw [readDigits_eq_error_iff hbound]
    constructor
    · rintro ⟨before, c, after, rfl, hbefore, hbelow, hstops⟩
      exact .stops hrest hbefore hbelow hstops
    · intro h
      cases h with
      | empty => exact absurd rfl hnil
      | sign => exact absurd rfl hsign
      | @stops _ before after c _ htext hbefore hbelow hstops =>
        exact ⟨before, c, after, hrest.symm.trans htext, hbefore, hbelow, hstops⟩
  have hnothing {before after : List Char} {c : Char} (h : [] = before ++ c :: after) : False := by
    cases before <;> cases h
  unfold read
  split
  next =>
    refine ⟨fun h => Except.error.inj h ▸ .empty, fun h => ?_⟩
    cases h with
    | empty => rfl
    | stops htext => exact (hnothing htext).elim
  next =>
    refine ⟨fun h => Except.error.inj h ▸ .sign, fun h => ?_⟩
    cases h with
    | sign => rfl
    | stops htext => exact (hnothing htext).elim
  next rest hrest => exact hdigits rfl (List.cons_ne_nil _ _) fun h => hrest (List.cons.inj h).2
  next hnil hsign hplus =>
    refine hdigits ?_ hnil hsign
    unfold unsigned
    split
    next rest => exact absurd rfl (hplus rest)
    next => rfl

end Gatehouse.Numeral
