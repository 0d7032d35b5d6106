import Gatehouse.Json.Value
import Gatehouse.Proofs.Json.Grammar
import Gatehouse.Proofs.Json.Reading

/-!
# Skipping values

A value that nobody asks for is skipped, whatever it is, and the cursor is right behind it then.
Where a number ends shows only in what follows, so values are followed here by what can follow a
value in a document: a blank, a comma, a closing sign, or nothing.

## Main definitions

* `Json.IsDelimited`: what can follow a value.
* `Json.Skips`: the value of a text is skipped.

## Main results

* `Json.IsSpelled.skips`: every value is skipped.
* `Json.IsSpelled.exists_skipValue`: with the room that skipping has.
-/

namespace Gatehouse.Json

/-! ### Blanks -/

theorem isBlank_iff {c : Char} : Cursor.isBlank c = true ↔ c ∈ [' ', '\n', '\t', '\r'] := by
  simp [Cursor.isBlank, or_assoc]

variable {gap rest : List Char}

theorem areBlank_nil : AreBlank [] := nofun

theorem AreBlank.append {gap' : List Char} (hgap : AreBlank gap) (hgap' : AreBlank gap') :
    AreBlank (gap ++ gap') := fun c hc => (List.mem_append.1 hc).elim (hgap c) (hgap' c)

/-- Blanks are skipped up to the next character that is none. -/
theorem skipBlanks_append (hgap : AreBlank gap) {c : Char} (hc : Cursor.isBlank c = false)
    (rest : List Char) (mark : Mark) :
    ∃ mark', Cursor.skipBlanks ⟨gap ++ c :: rest, mark⟩ = ⟨c :: rest, mark'⟩ := by
  induction gap generalizing mark with
  | nil => exact ⟨mark, skipBlanks_cons hc rest mark⟩
  | cons d gap ih =>
    obtain ⟨hd, hgap⟩ := List.forall_mem_cons.1 hgap
    obtain ⟨mark', hskip⟩ := ih hgap (Cursor.markAfter mark d)
    refine ⟨mark', ?_⟩
    rw [Cursor.skipBlanks] at hskip ⊢
    rw [List.cons_append, Cursor.skipBlanksFrom, isBlank_iff.2 hd, if_pos rfl]
    exact hskip

/-- Blanks are skipped up to the end. -/
theorem skipBlanks_end (hgap : AreBlank gap) (mark : Mark) :
    ∃ mark', Cursor.skipBlanks ⟨gap, mark⟩ = ⟨[], mark'⟩ := by
  induction gap generalizing mark with
  | nil => exact ⟨mark, rfl⟩
  | cons d gap ih =>
    obtain ⟨hd, hgap⟩ := List.forall_mem_cons.1 hgap
    obtain ⟨mark', hskip⟩ := ih hgap (Cursor.markAfter mark d)
    refine ⟨mark', ?_⟩
    rw [Cursor.skipBlanks] at hskip ⊢
    rw [Cursor.skipBlanksFrom, isBlank_iff.2 hd, if_pos rfl]
    exact hskip

/-- A decidable property is checked for a list of characters, and not for all characters. -/
theorem forall_mem_of_all {p : Char → Prop} [DecidablePred p] {cs : List Char}
    (h : cs.all (fun c => decide (p c)) = true) : ∀ c ∈ cs, p c := by
  simpa using h

/-- What can follow a value: a blank, a comma, a closing sign, or nothing. -/
def IsDelimited (rest : List Char) : Prop :=
  ∀ c ∈ rest.head?, c ∈ [' ', '\n', '\t', '\r', ',', ']', '\x7d']

theorem isDelimited_nil : IsDelimited [] := nofun

theorem isDelimited_cons {c : Char} (hc : c ∈ [' ', '\n', '\t', '\r', ',', ']', '\x7d'])
    (rest : List Char) : IsDelimited (c :: rest) := by
  intro d hd
  rw [List.head?_cons, Option.mem_some_iff] at hd
  exact hd ▸ hc

theorem IsDelimited.append (hgap : AreBlank gap) (hrest : IsDelimited rest) :
    IsDelimited (gap ++ rest) := by
  cases gap with
  | nil => exact hrest
  | cons d gap =>
    have hd : d ∈ [' ', '\n', '\t', '\r'] := hgap d List.mem_cons_self
    refine isDelimited_cons ?_ (gap ++ rest)
    simp only [List.mem_cons, List.not_mem_nil, or_false] at hd ⊢
    rcases hd with rfl | rfl | rfl | rfl <;> decide

/-- What follows a value is nothing that a number goes on with. -/
theorem IsDelimited.head_notMem (hrest : IsDelimited rest) {c : Char} (hc : c ∈ rest.head?) :
    isDigit c = false ∧ c ≠ '.' ∧ c ≠ 'e' ∧ c ≠ 'E' := by
  have hall : ∀ c ∈ [' ', '\n', '\t', '\r', ',', ']', '\x7d'],
      isDigit c = false ∧ c ≠ '.' ∧ c ≠ 'e' ∧ c ≠ 'E' := forall_mem_of_all (by decide)
  exact hall c (hrest c hc)

/-! ### Strings -/

theorem simpleEscape?_eq_lookup (letter : Char) :
    simpleEscape? letter = shortEscapes.lookup letter := by
  unfold simpleEscape?
  split_ifs
  case neg => simp [shortEscapes, List.lookup_cons, beq_false_of_ne, *]
  all_goals
    subst letter
    rfl

theorem Piece.isSome_lookup {letter : Char} (h : (Piece.short letter).IsAllowed) :
    (shortEscapes.lookup letter).isSome = true := by
  obtain ⟨c, hc⟩ := h
  simp only [shortEscapes, List.mem_cons, Prod.mk.injEq, List.not_mem_nil, or_false] at hc
  rcases hc with ⟨rfl, -⟩ | ⟨rfl, -⟩ | ⟨rfl, -⟩ | ⟨rfl, -⟩ | ⟨rfl, -⟩ | ⟨rfl, -⟩ | ⟨rfl, -⟩ |
    ⟨rfl, -⟩ <;> decide

/-- The digits of a code unit are read. -/
theorem readUnit_of_isAllowed {a b c d : Char} (h : (Piece.unit a b c d).IsAllowed)
    (rest : List Char) (mark : Mark) :
    ∃ mark', readUnit ⟨a :: b :: c :: d :: rest, mark⟩ =
      .ok (unitOf a b c d, ⟨rest, mark'⟩) := by
  simp only [Piece.IsAllowed, List.forall_mem_cons, Option.isSome_iff_exists] at h
  obtain ⟨⟨na, ha⟩, ⟨nb, hb⟩, ⟨nc, hc⟩, ⟨nd, hd⟩, -⟩ := h
  refine ⟨⟨mark.line, mark.column + 4⟩, ?_⟩
  simp only [readUnit, unitOf, ha, hb, hc, hd, Option.getD_some]

/-- A piece is skipped in one step. -/
theorem skipChars_piece {p : Piece} (h : p.IsAllowed) (fuel : Nat) (rest : List Char)
    (mark : Mark) :
    ∃ mark', skipChars (fuel + 1) ⟨p.chars ++ rest, mark⟩ = skipChars fuel ⟨rest, mark'⟩ := by
  cases p with
  | plain c =>
    obtain ⟨hquote, hback, hcontrol⟩ := h
    refine ⟨Cursor.markAfter mark c, ?_⟩
    simp only [Piece.chars, List.cons_append, List.nil_append, skipChars, Cursor.next?_cons, hquote,
      hback, Nat.not_lt.2 hcontrol, if_false]
  | short letter =>
    have hsome : (simpleEscape? letter).isSome = true := by
      rw [simpleEscape?_eq_lookup]
      exact Piece.isSome_lookup h
    have hletter : letter ≠ 'u' := by
      rintro rfl
      exact absurd hsome (by decide)
    refine ⟨Cursor.markAfter (Cursor.markAfter mark '\\') letter, ?_⟩
    simp only [Piece.chars, List.cons_append, List.nil_append, skipChars, Cursor.next?_cons,
      skipEscape, hletter, hsome, if_true, if_false]
    rfl
  | unit a b c d =>
    obtain ⟨mark', hunit⟩ :=
      readUnit_of_isAllowed h rest (Cursor.markAfter (Cursor.markAfter mark '\\') 'u')
    refine ⟨mark', ?_⟩
    simp only [Piece.chars, List.cons_append, List.nil_append, skipChars, Cursor.next?_cons,
      skipEscape, hunit, if_true]
    rfl

/-- A string is skipped up to its closing quote. -/
theorem skipChars_pieces {pieces : List Piece} (h : ∀ p ∈ pieces, p.IsAllowed) {fuel : Nat}
    (hfuel : pieces.length < fuel) (rest : List Char) (mark : Mark) :
    ∃ mark', skipChars fuel ⟨pieces.flatMap Piece.chars ++ '"' :: rest, mark⟩ =
      .ok ⟨rest, mark'⟩ := by
  induction pieces generalizing fuel mark with
  | nil =>
    obtain ⟨fuel, rfl⟩ := Nat.exists_eq_succ_of_ne_zero (Nat.ne_of_gt hfuel)
    exact ⟨Cursor.markAfter mark '"', by simp [skipChars]⟩
  | cons p pieces ih =>
    obtain ⟨hp, hpieces⟩ := List.forall_mem_cons.1 h
    obtain ⟨fuel, rfl⟩ := Nat.exists_eq_succ_of_ne_zero (Nat.ne_of_gt (Nat.zero_lt_of_lt hfuel))
    obtain ⟨mark₁, hpiece⟩ :=
      skipChars_piece hp fuel (pieces.flatMap Piece.chars ++ '"' :: rest) mark
    obtain ⟨mark₂, hskip⟩ := ih hpieces (Nat.lt_of_succ_lt_succ hfuel) mark₁
    exact ⟨mark₂, by rw [List.flatMap_cons, List.append_assoc, hpiece, hskip]⟩

theorem length_le_length_chars (pieces : List Piece) :
    pieces.length ≤ (pieces.flatMap Piece.chars).length := by
  induction pieces with
  | nil => exact Nat.le_refl _
  | cons p pieces ih =>
    have hp : 1 ≤ p.chars.length := by cases p <;> simp [Piece.chars]
    rw [List.flatMap_cons, List.length_append, List.length_cons]
    omega

theorem skipText_pieces {pieces : List Piece} (h : ∀ p ∈ pieces, p.IsAllowed) (rest : List Char)
    (mark : Mark) :
    ∃ mark', skipText ⟨pieces.flatMap Piece.chars ++ '"' :: rest, mark⟩ = .ok ⟨rest, mark'⟩ := by
  refine skipChars_pieces h ?_ rest mark
  have hlength := length_le_length_chars pieces
  rw [List.length_append]
  omega

/-! ### Numbers -/

/-- Digits are taken up to what follows them. -/
theorem span_digits {ds : List Char} (hds : ∀ d ∈ ds, isDigit d = true)
    (hrest : ∀ c ∈ rest.head?, isDigit c = false) (mark : Mark) :
    ∃ mark', Cursor.span ⟨ds ++ rest, mark⟩ isDigit = (ds, ⟨rest, mark'⟩) := by
  have htake : rest.takeWhile isDigit = [] ∧ rest.dropWhile isDigit = rest := by
    cases rest with
    | nil => exact ⟨rfl, rfl⟩
    | cons c rest =>
      have hc := hrest c rfl
      simp [hc]
  refine ⟨⟨mark.line, mark.column + ds.length⟩, ?_⟩
  rw [Cursor.span]
  dsimp only
  rw [List.takeWhile_append_of_pos hds, List.dropWhile_append_of_pos hds, htake.1, htake.2,
    List.append_nil]

/-- An exponent starts with none of the characters that stand in front of it. -/
theorem IsScale.head_notMem {cs : List Char} (h : IsScale cs) (hrest : IsDelimited rest) {c : Char}
    (hc : c ∈ (cs ++ rest).head?) : isDigit c = false ∧ c ≠ '.' := by
  rcases h with rfl | ⟨letter, hletter, sign, -, ds, -, rfl⟩
  · obtain ⟨hdigit, hpoint, -⟩ := hrest.head_notMem hc
    exact ⟨hdigit, hpoint⟩
  · have hall : ∀ c ∈ ['e', 'E'], isDigit c = false ∧ c ≠ '.' := forall_mem_of_all (by decide)
    rw [List.cons_append, List.head?_cons, Option.mem_some_iff] at hc
    exact hall c (hc ▸ hletter)

/-- An exponent is skipped, and so is one that is not there. -/
theorem skipScale_of_isScale {cs : List Char} (h : IsScale cs) (hrest : IsDelimited rest)
    (mark : Mark) : ∃ mark', skipScale ⟨cs ++ rest, mark⟩ = .ok ⟨rest, mark'⟩ := by
  rcases h with rfl | ⟨letter, hletter, sign, hsign, ds, ⟨hne, hds⟩, rfl⟩
  · refine ⟨mark, ?_⟩
    rw [List.nil_append, skipScale, Cursor.peek?]
    dsimp only
    split
    next heq => exact absurd rfl (hrest.head_notMem heq).2.2.1
    next heq => exact absurd rfl (hrest.head_notMem heq).2.2.2
    next => rfl
  · obtain ⟨d, ds, rfl⟩ := List.exists_cons_of_ne_nil hne
    have hd : isDigit d = true := hds d List.mem_cons_self
    have hplus : d ≠ '+' := by
      rintro rfl
      exact absurd hd (by decide)
    have hminus : d ≠ '-' := by
      rintro rfl
      exact absurd hd (by decide)
    have hspan (mark : Mark) : ∃ mark', Cursor.span ⟨d :: (ds ++ rest), mark⟩ isDigit =
        (d :: ds, ⟨rest, mark'⟩) :=
      span_digits hds (fun c hc => (hrest.head_notMem hc).1) mark
    have hexponent (mark : Mark) :
        ∃ mark', skipExponent ⟨sign ++ (d :: ds ++ rest), mark⟩ = .ok ⟨rest, mark'⟩ := by
      simp only [List.mem_cons, List.not_mem_nil, or_false] at hsign
      rcases hsign with rfl | rfl | rfl
      · obtain ⟨mark', hspan⟩ := hspan mark
        exact ⟨mark', by simp [skipExponent, hplus, hminus, hd, hspan]⟩
      · obtain ⟨mark', hspan⟩ := hspan (Cursor.markAfter mark '+')
        exact ⟨mark', by simp [skipExponent, hd, hspan]⟩
      · obtain ⟨mark', hspan⟩ := hspan (Cursor.markAfter mark '-')
        exact ⟨mark', by simp [skipExponent, hd, hspan]⟩
    obtain ⟨mark', hskip⟩ := hexponent (Cursor.markAfter mark letter)
    refine ⟨mark', ?_⟩
    rw [List.cons_append, List.append_assoc]
    simp only [List.mem_cons, List.not_mem_nil, or_false] at hletter
    rcases hletter with rfl | rfl
    · exact hskip
    · exact hskip

/-- The whole part of a number is made of digits, and of one only if the first is a zero. -/
theorem IsWhole.exists_cons {whole : List Char} (h : IsWhole whole) :
    ∃ d ds, whole = d :: ds ∧ (∀ x ∈ d :: ds, isDigit x = true) ∧ (d = '0' → ds = []) := by
  rcases h with rfl | ⟨⟨hne, hds⟩, hzero⟩
  · exact ⟨'0', [], rfl, forall_mem_of_all (by decide), fun _ => rfl⟩
  · obtain ⟨d, ds, rfl⟩ := List.exists_cons_of_ne_nil hne
    exact ⟨d, ds, rfl, hds, fun heq => absurd (congrArg some heq) hzero⟩

/-- A number is skipped behind its sign. -/
theorem skipNumber_of_isWhole {whole fraction scale : List Char} (hwhole : IsWhole whole)
    (hfraction : IsFraction fraction) (hscale : IsScale scale) (hrest : IsDelimited rest)
    (mark : Mark) :
    ∃ mark', skipNumber ⟨whole ++ (fraction ++ (scale ++ rest)), mark⟩ = .ok ⟨rest, mark'⟩ := by
  have hscaleHead : ∀ c ∈ (scale ++ rest).head?, isDigit c = false ∧ c ≠ '.' :=
    fun c hc => hscale.head_notMem hrest hc
  have hhead : ∀ c ∈ (fraction ++ (scale ++ rest)).head?, isDigit c = false := by
    rcases hfraction with rfl | ⟨ds, -, rfl⟩
    · exact fun c hc => (hscaleHead c hc).1
    · intro c hc
      rw [List.cons_append, List.head?_cons, Option.mem_some_iff] at hc
      exact hc ▸ by decide
  obtain ⟨d, ds, rfl, hds, hzero⟩ := hwhole.exists_cons
  obtain ⟨mark₁, hspan⟩ := span_digits hds hhead mark
  have hnoZero : ¬ (d = '0' ∧
      (ds ++ (fraction ++ (scale ++ rest))).head?.any isDigit = true) := by
    rintro ⟨heq, hany⟩
    rw [hzero heq, List.nil_append, Option.any_eq_true] at hany
    obtain ⟨c, hc, hdigit⟩ := hany
    rw [hhead c hc] at hdigit
    cases hdigit
  have hscaled : ∀ mark, ∃ mark', skipScale ⟨scale ++ rest, mark⟩ = .ok ⟨rest, mark'⟩ :=
    skipScale_of_isScale hscale hrest
  have hd : isDigit d = true := hds d List.mem_cons_self
  rw [List.cons_append] at hspan ⊢
  simp only [skipNumber, Cursor.next?_cons, hd, Bool.not_true, Bool.false_eq_true, if_false,
    Cursor.peek?, hnoZero, hspan]
  rcases hfraction with rfl | ⟨fs, ⟨hne, hfs⟩, rfl⟩
  · obtain ⟨mark₂, hskip⟩ := hscaled mark₁
    refine ⟨mark₂, ?_⟩
    rw [List.nil_append]
    split
    next heq => exact absurd rfl (hscaleHead '.' heq).2
    next => exact hskip
  · obtain ⟨mark₂, hpoint⟩ :=
      span_digits hfs (fun c hc => (hscaleHead c hc).1) (Cursor.markAfter mark₁ '.')
    obtain ⟨mark₃, hskip⟩ := hscaled mark₂
    refine ⟨mark₃, ?_⟩
    simp only [List.cons_append, List.head?_cons, Cursor.advance_cons, hpoint, hne, if_false]
    exact hskip

/-! ### Values -/

/-- What a value starts with: no blank, and nothing that closes an array or an object. -/
structure IsFirst (c : Char) : Prop where
  isBlank : Cursor.isBlank c = false
  ne_bracket : c ≠ ']'
  ne_brace : c ≠ '\x7d'

theorem isFirst_of_isDigit {c : Char} (h : isDigit c = true) : IsFirst c := by
  refine ⟨Bool.not_eq_true _ ▸ fun hblank => ?_, ?_, ?_⟩
  · have hall : ∀ c ∈ [' ', '\n', '\t', '\r'], isDigit c = false := forall_mem_of_all (by decide)
    rw [hall c (isBlank_iff.1 hblank)] at h
    cases h
  · rintro rfl
    exact absurd h (by decide)
  · rintro rfl
    exact absurd h (by decide)

/-- The first character of a value tells strings, arrays and objects from others. -/
structure Starts (v : Value) (c : Char) : Prop extends IsFirst c where
  string_iff : c = '"' ↔ ∃ s, v = .string s
  array_iff : c = '[' ↔ ∃ elements, v = .array elements
  object_iff : c = '\x7b' ↔ ∃ members, v = .object members

theorem starts_number (token : List Char) {c : Char} (hc : isDigit c = true ∨ c = '-') :
    Starts (.number token) c := by
  have hne (d : Char) (hd : isDigit d = false ∧ d ≠ '-') : c ≠ d := by
    rintro rfl
    rcases hc with hc | hc
    · exact Bool.noConfusion (hc.symm.trans hd.1)
    · exact hd.2 hc
  refine ⟨?_, ?_, ?_, ?_⟩
  · rcases hc with hc | rfl
    · exact isFirst_of_isDigit hc
    · exact ⟨by decide, by decide, by decide⟩
  · simp [hne '"' (by decide)]
  · simp [hne '[' (by decide)]
  · simp [hne '\x7b' (by decide)]

theorem IsSpelled.exists_cons {v : Value} {cs : List Char} (h : IsSpelled v cs) :
    ∃ c rest, cs = c :: rest ∧ Starts v c := by
  cases h with
  | number hnumber =>
    obtain ⟨hsign, hwhole, -, -⟩ := hnumber
    rcases hsign with rfl | rfl
    · obtain ⟨d, ds, rfl, hds, -⟩ := hwhole.exists_cons
      exact ⟨_, _, rfl, starts_number _ (.inl (hds d List.mem_cons_self))⟩
    · exact ⟨_, _, rfl, starts_number _ (.inr rfl)⟩
  | null | true | false | string | array | object =>
    exact ⟨_, _, rfl, ⟨by decide, by decide, by decide⟩, by simp, by simp, by simp⟩

/-- The value of a text is skipped, by any fuel that is enough for the text. -/
def Skips (cs : List Char) : Prop :=
  ∀ fuel, 2 * cs.length ≤ fuel → ∀ gap rest, AreBlank gap → IsDelimited rest →
    ∀ mark, ∃ mark', skipWithin fuel ⟨gap ++ (cs ++ rest), mark⟩ = .ok ⟨rest, mark'⟩

/-- Blanks in front of a value are skipped first. -/
theorem skipWithin_gap (hgap : AreBlank gap) {c : Char} (hc : Cursor.isBlank c = false) (fuel : Nat)
    (rest : List Char) (mark : Mark) :
    ∃ mark', skipWithin (fuel + 1) ⟨gap ++ c :: rest, mark⟩ =
      skipWithin (fuel + 1) ⟨c :: rest, mark'⟩ := by
  obtain ⟨mark', hskip⟩ := skipBlanks_append hgap hc rest mark
  refine ⟨mark', ?_⟩
  simp only [skipWithin, hskip, skipBlanks_cons hc]

/-- Without blanks in front of it, it is enough that the value is skipped. -/
theorem skips_of_cons {c : Char} {cs : List Char} (hc : Cursor.isBlank c = false)
    (h : ∀ fuel, 2 * cs.length < fuel → ∀ rest, IsDelimited rest → ∀ mark,
      ∃ mark', skipWithin (fuel + 1) ⟨c :: (cs ++ rest), mark⟩ = .ok ⟨rest, mark'⟩) :
    Skips (c :: cs) := by
  intro fuel hfuel gap rest hgap hrest mark
  rw [List.length_cons] at hfuel
  obtain ⟨fuel, rfl⟩ := Nat.exists_eq_succ_of_ne_zero (n := fuel) (by omega)
  obtain ⟨mark₁, hblanks⟩ := skipWithin_gap hgap hc fuel (cs ++ rest) mark
  obtain ⟨mark₂, hskip⟩ := h fuel (by omega) rest hrest mark₁
  exact ⟨mark₂, by rw [List.cons_append, hblanks, hskip]⟩

theorem skips_null : Skips ['n', 'u', 'l', 'l'] :=
  skips_of_cons rfl fun _ _ _ _ _ => ⟨_, rfl⟩

theorem skips_true : Skips ['t', 'r', 'u', 'e'] :=
  skips_of_cons rfl fun _ _ _ _ _ => ⟨_, rfl⟩

theorem skips_false : Skips ['f', 'a', 'l', 's', 'e'] :=
  skips_of_cons rfl fun _ _ _ _ _ => ⟨_, rfl⟩

theorem skips_string {pieces : List Piece} (h : ∀ p ∈ pieces, p.IsAllowed) :
    Skips (quoted pieces) := by
  refine skips_of_cons rfl fun fuel _ rest _ mark => ?_
  obtain ⟨mark', hskip⟩ := skipText_pieces h rest (Cursor.markAfter mark '"')
  refine ⟨mark', ?_⟩
  rw [List.append_assoc]
  exact hskip

theorem skipWithin_digit {d : Char} (hd : isDigit d = true) (fuel : Nat) (rest : List Char)
    (mark : Mark) :
    skipWithin (fuel + 1) ⟨d :: rest, mark⟩ = skipNumber ⟨d :: rest, mark⟩ := by
  have hne (c : Char) (hc : isDigit c = false) : d ≠ c := by
    rintro rfl
    rw [hd] at hc
    cases hc
  simp only [skipWithin, skipBlanks_cons (isFirst_of_isDigit hd).isBlank, Cursor.next?_cons,
    hne 'n' (by decide), hne 't' (by decide), hne 'f' (by decide), hne '-' (by decide), hd,
    if_false, if_true]

theorem skips_number {token : List Char} (h : IsNumber token) : Skips token := by
  obtain ⟨hsign, hwhole, hfraction, hscale⟩ := h
  have hskip {rest : List Char} (hrest : IsDelimited rest) (mark : Mark) :=
    skipNumber_of_isWhole hwhole hfraction hscale hrest mark
  rcases hsign with rfl | rfl
  · obtain ⟨d, ds, rfl, hds, -⟩ := hwhole.exists_cons
    have hd := hds d List.mem_cons_self
    rw [List.nil_append, List.cons_append]
    refine skips_of_cons (isFirst_of_isDigit hd).isBlank fun fuel _ rest hrest mark => ?_
    obtain ⟨mark', hskip⟩ := hskip hrest mark
    refine ⟨mark', ?_⟩
    rw [skipWithin_digit hd, ← hskip]
    simp only [List.cons_append, List.append_assoc]
  · rw [List.singleton_append]
    refine skips_of_cons rfl fun fuel _ rest hrest mark => ?_
    obtain ⟨mark', hskip⟩ := hskip hrest (Cursor.markAfter mark '-')
    refine ⟨mark', ?_⟩
    rw [List.append_assoc, List.append_assoc]
    exact hskip

/-! ### Arrays and objects -/

/-- The text of a value is skipped, and there are only blanks around it. -/
structure SkipsSpaced (x : Spaced) : Prop where
  before : AreBlank x.before
  core : Skips x.core
  after : AreBlank x.after

/-- An element is skipped with the comma or the bracket behind it. -/
theorem skipElements_element {x : Spaced} (hx : SkipsSpaced x) {fuel : Nat}
    (hfuel : 2 * x.core.length ≤ fuel) {d : Char} (hd : d = ',' ∨ d = ']') (rest : List Char)
    (mark : Mark) :
    ∃ mark', skipElements (fuel + 1) ⟨x.text ++ d :: rest, mark⟩ =
      if d = ',' then skipElements fuel ⟨rest, mark'⟩ else .ok ⟨rest, mark'⟩ := by
  have hdelimited : IsDelimited (x.after ++ d :: rest) := by
    refine .append hx.after (isDelimited_cons ?_ rest)
    rcases hd with rfl | rfl <;> decide
  have hblank : Cursor.isBlank d = false := by rcases hd with rfl | rfl <;> rfl
  obtain ⟨mark₁, hvalue⟩ := hx.core fuel hfuel x.before _ hx.before hdelimited mark
  obtain ⟨mark₂, hblanks⟩ := skipBlanks_append hx.after hblank rest mark₁
  refine ⟨Cursor.markAfter mark₂ d, ?_⟩
  have htext : x.text ++ d :: rest = x.before ++ (x.core ++ (x.after ++ d :: rest)) := by
    simp [Spaced.text]
  rw [htext, skipElements, hvalue]
  dsimp only
  rw [hblanks]
  rcases hd with rfl | rfl <;> rfl

/-- Elements are skipped with the closing bracket. -/
theorem skipElements_spaced {x : Spaced} (hx : SkipsSpaced x) {xs : List Spaced}
    (hxs : ∀ y ∈ xs, SkipsSpaced y) {fuel : Nat}
    (hfuel : 2 * (x.text.length + (behindCommas (xs.map Spaced.text)).length) < fuel)
    (rest : List Char) (mark : Mark) :
    ∃ mark', skipElements fuel
        ⟨x.text ++ (behindCommas (xs.map Spaced.text) ++ ']' :: rest), mark⟩ =
      .ok ⟨rest, mark'⟩ := by
  have hcore (x : Spaced) : x.core.length ≤ x.text.length := by
    simp only [Spaced.text, List.length_append]
    omega
  induction xs generalizing x fuel mark with
  | nil =>
    obtain ⟨fuel, rfl⟩ := Nat.exists_eq_succ_of_ne_zero (Nat.ne_of_gt (Nat.zero_lt_of_lt hfuel))
    have hless : 2 * x.core.length ≤ fuel := by
      have := hcore x
      omega
    exact skipElements_element hx hless (.inr rfl) rest mark
  | cons y ys ih =>
    obtain ⟨hy, hys⟩ := List.forall_mem_cons.1 hxs
    obtain ⟨fuel, rfl⟩ := Nat.exists_eq_succ_of_ne_zero (Nat.ne_of_gt (Nat.zero_lt_of_lt hfuel))
    have htext : behindCommas ((y :: ys).map Spaced.text) =
        ',' :: (y.text ++ behindCommas (ys.map Spaced.text)) := rfl
    rw [htext, List.length_cons, List.length_append] at hfuel
    have hless : 2 * x.core.length ≤ fuel := by
      have := hcore x
      omega
    obtain ⟨mark₁, helement⟩ := skipElements_element hx hless (.inl rfl)
      (y.text ++ (behindCommas (ys.map Spaced.text) ++ ']' :: rest)) mark
    have hlater : 2 * (y.text.length + (behindCommas (ys.map Spaced.text)).length) < fuel := by
      omega
    obtain ⟨mark₂, hothers⟩ := ih hy hys hlater mark₁
    refine ⟨mark₂, ?_⟩
    rw [htext, List.cons_append, List.append_assoc, helement, if_pos rfl, hothers]

/-- An array is skipped by its closing bracket, or by its elements. -/
theorem skipWithin_bracket (fuel : Nat) {rest : List Char} {mark : Mark} {c : Char}
    {behind : List Char} {mark' : Mark}
    (h : Cursor.skipBlanks ⟨rest, Cursor.markAfter mark '['⟩ = ⟨c :: behind, mark'⟩) :
    skipWithin (fuel + 1) ⟨'[' :: rest, mark⟩ =
      if c = ']' then .ok ⟨behind, Cursor.markAfter mark' ']'⟩
      else skipElements fuel ⟨c :: behind, mark'⟩ := by
  have hdigit : isDigit '[' = false := by decide
  simp only [skipWithin, skipBlanks_cons (c := '[') rfl, Cursor.next?_cons, Char.reduceEq, hdigit,
    Bool.false_eq_true, if_false, if_true, h, Cursor.peek?_cons]
  split
  next heq => cases heq
  next heq => rw [if_pos (Option.some.inj heq), Cursor.advance_cons, Option.some.inj heq]
  next hne heq => rw [if_neg fun hc => hne ((Option.some.inj heq).symm.trans hc)]

/-- An array is skipped. -/
theorem skips_array {gap : List Char} (hgap : AreBlank gap) {xs : List Spaced}
    (hfirst : ∀ x ∈ xs, ∃ c rest, x.core = c :: rest ∧ IsFirst c)
    (hxs : ∀ x ∈ xs, SkipsSpaced x) :
    Skips ('[' :: (gap ++ (betweenCommas (xs.map Spaced.text) ++ [']']))) := by
  refine skips_of_cons rfl fun fuel hfuel rest _ mark => ?_
  cases xs with
  | nil =>
    obtain ⟨mark', hblanks⟩ :=
      skipBlanks_append hgap (c := ']') rfl rest (Cursor.markAfter mark '[')
    refine ⟨Cursor.markAfter mark' ']', ?_⟩
    have hclosing : Cursor.skipBlanks
        ⟨gap ++ (betweenCommas (([] : List Spaced).map Spaced.text) ++ [']']) ++ rest,
          Cursor.markAfter mark '['⟩ = ⟨']' :: rest, mark'⟩ := by
      simpa [betweenCommas] using hblanks
    rw [skipWithin_bracket fuel hclosing, if_pos rfl]
  | cons x xs =>
    obtain ⟨hx, hothers⟩ := List.forall_mem_cons.1 hxs
    obtain ⟨c, cs, hc, hfirst⟩ := hfirst x List.mem_cons_self
    -- the blanks in front of the first element are skipped together with the gap
    have hblank : AreBlank (gap ++ x.before) := hgap.append hx.before
    have hbare : SkipsSpaced ⟨[], x.core, x.after⟩ := ⟨areBlank_nil, hx.core, hx.after⟩
    have htext : gap ++ (betweenCommas ((x :: xs).map Spaced.text) ++ [']']) ++ rest =
        gap ++ x.before ++ (Spaced.text ⟨[], x.core, x.after⟩ ++
          (behindCommas (xs.map Spaced.text) ++ ']' :: rest)) := by
      simp [betweenCommas, Spaced.text]
    have hless : 2 * ((Spaced.text ⟨[], x.core, x.after⟩).length +
        (behindCommas (xs.map Spaced.text)).length) < fuel := by
      simp only [List.map_cons, betweenCommas, Spaced.text, List.length_append,
        List.nil_append] at hfuel ⊢
      omega
    have hstart : Spaced.text ⟨[], x.core, x.after⟩ = c :: (cs ++ x.after) := by
      rw [Spaced.text, List.nil_append, hc, List.cons_append]
    obtain ⟨mark₁, hblanks⟩ := skipBlanks_append hblank hfirst.isBlank
      (cs ++ x.after ++ (behindCommas (xs.map Spaced.text) ++ ']' :: rest))
      (Cursor.markAfter mark '[')
    obtain ⟨mark₂, helements⟩ := skipElements_spaced hbare hothers hless rest mark₁
    refine ⟨mark₂, ?_⟩
    rw [htext]
    rw [hstart, List.cons_append] at helements ⊢
    rw [skipWithin_bracket fuel hblanks, if_neg hfirst.ne_bracket]
    exact helements

/-- The texts of a member are skipped, and there are only blanks around them. -/
structure SkipsMember (x : SpacedMember) : Prop where
  before : AreBlank x.before
  name : ∀ p ∈ x.name, p.IsAllowed
  after : AreBlank x.after
  value : SkipsSpaced x.value

/-- A member is skipped with the comma or the brace behind it. -/
theorem skipMembers_member {m : SpacedMember} (hm : SkipsMember m) {fuel : Nat}
    (hfuel : 2 * m.value.core.length ≤ fuel) {d : Char} (hd : d = ',' ∨ d = '\x7d')
    (rest : List Char) (mark : Mark) :
    ∃ mark', skipMembers (fuel + 1) ⟨m.text ++ d :: rest, mark⟩ =
      if d = ',' then skipMembers fuel ⟨rest, mark'⟩ else .ok ⟨rest, mark'⟩ := by
  have hdelimited : IsDelimited (m.value.after ++ d :: rest) := by
    refine .append hm.value.after (isDelimited_cons ?_ rest)
    rcases hd with rfl | rfl <;> decide
  have hblank : Cursor.isBlank d = false := by rcases hd with rfl | rfl <;> rfl
  have htext : m.text ++ d :: rest = m.before ++ '"' :: (m.name.flatMap Piece.chars ++ '"' ::
      (m.after ++ ':' :: (m.value.before ++ (m.value.core ++ (m.value.after ++ d :: rest))))) := by
    simp [SpacedMember.text, Spaced.text, quoted]
  rw [htext]
  obtain ⟨mark₁, hbefore⟩ := skipBlanks_append hm.before (c := '"') rfl
    (m.name.flatMap Piece.chars ++ '"' :: (m.after ++ ':' ::
      (m.value.before ++ (m.value.core ++ (m.value.after ++ d :: rest))))) mark
  obtain ⟨mark₂, hname⟩ := skipText_pieces hm.name
    (m.after ++ ':' :: (m.value.before ++ (m.value.core ++ (m.value.after ++ d :: rest))))
    (Cursor.markAfter mark₁ '"')
  obtain ⟨mark₃, hcolon⟩ := skipBlanks_append hm.after (c := ':') rfl
    (m.value.before ++ (m.value.core ++ (m.value.after ++ d :: rest))) mark₂
  obtain ⟨mark₄, hvalue⟩ := hm.value.core fuel hfuel m.value.before _ hm.value.before hdelimited
    (Cursor.markAfter mark₃ ':')
  obtain ⟨mark₅, hafter⟩ := skipBlanks_append hm.value.after hblank rest mark₄
  refine ⟨Cursor.markAfter mark₅ d, ?_⟩
  simp only [skipMembers, hbefore, Cursor.peek?_cons, Cursor.advance_cons, hname, hcolon, hvalue,
    hafter]
  rcases hd with rfl | rfl <;> rfl

/-- Members are skipped with the closing brace. -/
theorem skipMembers_spaced {m : SpacedMember} (hm : SkipsMember m) {ms : List SpacedMember}
    (hms : ∀ n ∈ ms, SkipsMember n) {fuel : Nat}
    (hfuel : 2 * (m.text.length + (behindCommas (ms.map SpacedMember.text)).length) < fuel)
    (rest : List Char) (mark : Mark) :
    ∃ mark', skipMembers fuel
        ⟨m.text ++ (behindCommas (ms.map SpacedMember.text) ++ '\x7d' :: rest), mark⟩ =
      .ok ⟨rest, mark'⟩ := by
  have hcore (m : SpacedMember) : m.value.core.length ≤ m.text.length := by
    simp only [SpacedMember.text, Spaced.text, List.length_append, List.length_cons]
    omega
  induction ms generalizing m fuel mark with
  | nil =>
    obtain ⟨fuel, rfl⟩ := Nat.exists_eq_succ_of_ne_zero (Nat.ne_of_gt (Nat.zero_lt_of_lt hfuel))
    have hless : 2 * m.value.core.length ≤ fuel := by
      have := hcore m
      omega
    exact skipMembers_member hm hless (.inr rfl) rest mark
  | cons n ns ih =>
    obtain ⟨hn, hns⟩ := List.forall_mem_cons.1 hms
    obtain ⟨fuel, rfl⟩ := Nat.exists_eq_succ_of_ne_zero (Nat.ne_of_gt (Nat.zero_lt_of_lt hfuel))
    have htext : behindCommas ((n :: ns).map SpacedMember.text) =
        ',' :: (n.text ++ behindCommas (ns.map SpacedMember.text)) := rfl
    rw [htext, List.length_cons, List.length_append] at hfuel
    have hless : 2 * m.value.core.length ≤ fuel := by
      have := hcore m
      omega
    obtain ⟨mark₁, hmember⟩ := skipMembers_member hm hless (.inl rfl)
      (n.text ++ (behindCommas (ns.map SpacedMember.text) ++ '\x7d' :: rest)) mark
    have hlater :
        2 * (n.text.length + (behindCommas (ns.map SpacedMember.text)).length) < fuel := by
      omega
    obtain ⟨mark₂, hothers⟩ := ih hn hns hlater mark₁
    refine ⟨mark₂, ?_⟩
    rw [htext, List.cons_append, List.append_assoc, hmember, if_pos rfl, hothers]

/-- An object is skipped by its closing brace, or by its members. -/
theorem skipWithin_brace (fuel : Nat) {rest : List Char} {mark : Mark} {c : Char}
    {behind : List Char} {mark' : Mark}
    (h : Cursor.skipBlanks ⟨rest, Cursor.markAfter mark '\x7b'⟩ = ⟨c :: behind, mark'⟩) :
    skipWithin (fuel + 1) ⟨'\x7b' :: rest, mark⟩ =
      if c = '\x7d' then .ok ⟨behind, Cursor.markAfter mark' '\x7d'⟩
      else skipMembers fuel ⟨c :: behind, mark'⟩ := by
  have hdigit : isDigit '\x7b' = false := by decide
  simp only [skipWithin, skipBlanks_cons (c := '\x7b') rfl, Cursor.next?_cons, Char.reduceEq,
    hdigit, Bool.false_eq_true, if_false, if_true, h, Cursor.peek?_cons]
  split
  next heq => cases heq
  next heq => rw [if_pos (Option.some.inj heq), Cursor.advance_cons, Option.some.inj heq]
  next hne heq => rw [if_neg fun hc => hne ((Option.some.inj heq).symm.trans hc)]

/-- An object is skipped. -/
theorem skips_object {gap : List Char} (hgap : AreBlank gap) {ms : List SpacedMember}
    (hms : ∀ m ∈ ms, SkipsMember m) :
    Skips ('\x7b' :: (gap ++ (betweenCommas (ms.map SpacedMember.text) ++ ['\x7d']))) := by
  refine skips_of_cons rfl fun fuel hfuel rest _ mark => ?_
  cases ms with
  | nil =>
    obtain ⟨mark', hblanks⟩ :=
      skipBlanks_append hgap (c := '\x7d') rfl rest (Cursor.markAfter mark '\x7b')
    refine ⟨Cursor.markAfter mark' '\x7d', ?_⟩
    have hclosing : Cursor.skipBlanks
        ⟨gap ++ (betweenCommas (([] : List SpacedMember).map SpacedMember.text) ++ ['\x7d']) ++
            rest, Cursor.markAfter mark '\x7b'⟩ = ⟨'\x7d' :: rest, mark'⟩ := by
      simpa [betweenCommas] using hblanks
    rw [skipWithin_brace fuel hclosing, if_pos rfl]
  | cons m ms =>
    obtain ⟨hm, hothers⟩ := List.forall_mem_cons.1 hms
    have hblank : AreBlank (gap ++ m.before) := hgap.append hm.before
    have hbare : SkipsMember ⟨[], m.name, m.after, m.value⟩ :=
      ⟨areBlank_nil, hm.name, hm.after, hm.value⟩
    have htext : gap ++ (betweenCommas ((m :: ms).map SpacedMember.text) ++ ['\x7d']) ++ rest =
        gap ++ m.before ++ (SpacedMember.text ⟨[], m.name, m.after, m.value⟩ ++
          (behindCommas (ms.map SpacedMember.text) ++ '\x7d' :: rest)) := by
      simp [betweenCommas, SpacedMember.text]
    have hless : 2 * ((SpacedMember.text ⟨[], m.name, m.after, m.value⟩).length +
        (behindCommas (ms.map SpacedMember.text)).length) < fuel := by
      simp only [List.map_cons, betweenCommas, SpacedMember.text, List.length_append,
        List.nil_append] at hfuel ⊢
      omega
    obtain ⟨cs, hstart⟩ : ∃ cs, SpacedMember.text ⟨[], m.name, m.after, m.value⟩ = '"' :: cs :=
      ⟨_, by rw [SpacedMember.text, List.nil_append, quoted, List.cons_append]⟩
    obtain ⟨mark₁, hblanks⟩ := skipBlanks_append hblank (c := '"') rfl
      (cs ++ (behindCommas (ms.map SpacedMember.text) ++ '\x7d' :: rest))
      (Cursor.markAfter mark '\x7b')
    obtain ⟨mark₂, hmembers⟩ := skipMembers_spaced hbare hothers hless rest mark₁
    refine ⟨mark₂, ?_⟩
    rw [htext]
    rw [hstart, List.cons_append] at hmembers ⊢
    rw [skipWithin_brace fuel hblanks, if_neg (by decide)]
    exact hmembers

/-- Every value is skipped. -/
theorem IsSpelled.skips {v : Value} {cs : List Char} (h : IsSpelled v cs) : Skips cs := by
  induction h with
  | null => exact skips_null
  | true => exact skips_true
  | false => exact skips_false
  | number hnumber => exact skips_number hnumber
  | string hpieces => exact skips_string hpieces
  | @array gap elements hgap hblank h ih =>
    have htexts : elements.map (·.2.text) = (elements.map (·.2)).map Spaced.text := by
      rw [List.map_map]
      rfl
    rw [htexts]
    refine skips_array hgap (List.forall_mem_map.2 fun x hx => ?_)
      (List.forall_mem_map.2 fun x hx => ?_)
    · obtain ⟨c, rest, hcore, hstarts⟩ := (h x hx).exists_cons
      exact ⟨c, rest, hcore, hstarts.toIsFirst⟩
    · exact ⟨(hblank x hx).1, ih x hx, (hblank x hx).2⟩
  | @object gap members hgap hname hblank h ih =>
    have htexts : members.map (·.2.text) = (members.map (·.2)).map SpacedMember.text := by
      rw [List.map_map]
      rfl
    rw [htexts]
    refine skips_object hgap (List.forall_mem_map.2 fun x hx => ?_)
    obtain ⟨hbefore, hafter, hvalueBefore, hvalueAfter⟩ := hblank x hx
    exact ⟨hbefore, hname x hx, hafter, hvalueBefore, ih x hx, hvalueAfter⟩

/-- A value is skipped with the room that skipping has. -/
theorem IsSpelled.exists_skipValue {v : Value} {cs : List Char} (h : IsSpelled v cs)
    {gap rest : List Char} (hgap : AreBlank gap) (hrest : IsDelimited rest) (mark : Mark) :
    ∃ mark', skipValue ⟨gap ++ (cs ++ rest), mark⟩ = .ok ⟨rest, mark'⟩ := by
  refine h.skips _ ?_ gap rest hgap hrest mark
  simp only [List.length_append]
  omega

end Gatehouse.Json
