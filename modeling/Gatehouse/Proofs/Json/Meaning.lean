import Gatehouse.Json.Record
import Gatehouse.Proofs.Json.Skipping

/-!
# What readers make of values

A reader depends on the value that is spelled in front of it alone: it gives the meaning of the
value, or refuses it if it has none. How the value is spelled, and what stands behind it, makes no
difference. The meaning of a list is made of the meanings of its elements, and that of a record of
the meanings of its fields, so the meaning of a whole document is found from the readers that its
format is made of.

## Main definitions

* `Json.Outcome`: what is made of a text in front of another.
* `Json.Means`: a reader gives the meanings of values.
* `Json.Value.string?`, `Json.Value.list?`: the meanings of strings and lists.
* `Json.fillByName`, `Json.fillInOrder`, `Json.Value.record?`: the meanings of records.

## Main results

* `Json.means_wantedString`, `Json.Means.list`, `Json.Means.record`: the readers of strings, lists
  and records give their meanings.
* `Json.Means.document`: the reader of a document gives the meaning of the value that it stands for.
-/

namespace Gatehouse.Json

/-- What is made of a text in front of `rest`: a value, with the cursor right behind the text, or an
error. -/
def Outcome {ε α : Type} (meaning : Option α) (rest : List Char)
    (result : Except ε (α × Cursor)) : Prop :=
  match meaning with
  | some x => ∃ mark, result = .ok (x, ⟨rest, mark⟩)
  | none => ∃ e, result = .error e

/-- A reader gives the meaning of every value that is spelled in front of it, and refuses those
that have none. -/
def Means {α : Type} (read : Reader α) (meaning : Value → Option α) : Prop :=
  ∀ v cs, IsSpelled v cs → ∀ gap rest, AreBlank gap → IsDelimited rest → ∀ mark,
    Outcome (meaning v) rest (read ⟨gap ++ (cs ++ rest), mark⟩)

/-- A text without a meaning is refused, and one with a meaning is read up to its end. -/
theorem Outcome.cases {ε α : Type} {meaning : Option α} {rest : List Char}
    {result : Except ε (α × Cursor)} (h : Outcome meaning rest result) :
    (meaning = none ∧ ∃ e, result = .error e) ∨
      ∃ x mark, meaning = some x ∧ result = .ok (x, ⟨rest, mark⟩) := by
  cases meaning with
  | none => exact .inl ⟨rfl, h⟩
  | some x =>
    obtain ⟨mark, hresult⟩ := h
    exact .inr ⟨x, mark, rfl, hresult⟩

theorem Outcome.map {ε α β : Type} {meaning : Option α} {rest : List Char}
    {result : Except ε (α × Cursor)} (h : Outcome meaning rest result) (f : α → β) :
    Outcome (meaning.map f) rest (result.map fun (x, k) => (f x, k)) := by
  cases meaning with
  | none =>
    obtain ⟨e, rfl⟩ := h
    exact ⟨e, rfl⟩
  | some x =>
    obtain ⟨mark, rfl⟩ := h
    exact ⟨mark, rfl⟩

theorem Means.map {α β : Type} {read : Reader α} {meaning : Value → Option α}
    (h : Means read meaning) (f : α → β) :
    Means (fun k => (read k).map fun (x, k) => (f x, k)) fun v => (meaning v).map f :=
  fun v cs hv gap rest hgap hrest mark => (h v cs hv gap rest hgap hrest mark).map f

/-! ### Strings -/

theorem readChars_plain {c : Char} (h : (Piece.plain c).IsAllowed) (fuel : Nat)
    (acc rest : List Char) (mark : Mark) :
    readChars (fuel + 1) acc ⟨c :: rest, mark⟩ =
      readChars fuel (c :: acc) ⟨rest, Cursor.markAfter mark c⟩ := by
  obtain ⟨hquote, hback, hcontrol⟩ := h
  simp only [readChars, Cursor.next?_cons, hquote, hback, Nat.not_lt.2 hcontrol, if_false]

theorem readChars_escape (fuel : Nat) (acc rest : List Char) (mark : Mark) :
    readChars (fuel + 1) acc ⟨'\\' :: rest, mark⟩ =
      match readEscape ⟨rest, Cursor.markAfter mark '\\'⟩ with
      | .error e => .error e
      | .ok (d, k) => readChars fuel (d :: acc) k := rfl

theorem readEscape_short {letter c : Char} (h : shortEscapes.lookup letter = some c)
    (rest : List Char) (mark : Mark) :
    readEscape ⟨letter :: rest, mark⟩ = .ok (c, ⟨rest, Cursor.markAfter mark letter⟩) := by
  have hletter : letter ≠ 'u' := by
    rintro rfl
    cases h
  simp only [readEscape, Cursor.next?_cons, hletter, simpleEscape?_eq_lookup, h, if_false]

/-- The escape of a code unit stands for a character, unless the unit is half of a pair. -/
theorem readEscape_unit {a b c d : Char} (h : (Piece.unit a b c d).IsAllowed) (rest : List Char)
    (mark : Mark) :
    ∃ mark', readEscape ⟨'u' :: a :: b :: c :: d :: rest, mark⟩ =
      if isTrail (unitOf a b c d) then .error ⟨.loneSurrogate, mark'⟩
      else if isLead (unitOf a b c d) then
        match (readPairChar ⟨rest, mark'⟩ '\\').bind (readPairChar · 'u') with
        | .error e => .error e
        | .ok k =>
          match readUnit k with
          | .error e => .error e
          | .ok (m, k) =>
            if isTrail m then
              .ok (Char.ofNat (0x10000 + (unitOf a b c d - 0xD800) * 1024 + (m - 0xDC00)), k)
            else k.fail .loneSurrogate
      else .ok (Char.ofNat (unitOf a b c d), ⟨rest, mark'⟩) := by
  obtain ⟨mark', hunit⟩ := readUnit_of_isAllowed h rest (Cursor.markAfter mark 'u')
  refine ⟨mark', ?_⟩
  simp only [readEscape, Cursor.next?_cons, if_true, readPoint, hunit]
  rfl

/-- A pair of code units stands for one character, if the second one is a second half. -/
theorem readEscape_pair {a b c d a' b' c' d' : Char} (hfirst : (Piece.unit a b c d).IsAllowed)
    (hsecond : (Piece.unit a' b' c' d').IsAllowed) (htrail : ¬ isTrail (unitOf a b c d) = true)
    (hlead : isLead (unitOf a b c d) = true) (rest : List Char) (mark : Mark) :
    ∃ mark', readEscape
        ⟨'u' :: a :: b :: c :: d :: '\\' :: 'u' :: a' :: b' :: c' :: d' :: rest, mark⟩ =
      if isTrail (unitOf a' b' c' d') then
        .ok (Char.ofNat (0x10000 + (unitOf a b c d - 0xD800) * 1024 +
          (unitOf a' b' c' d' - 0xDC00)), ⟨rest, mark'⟩)
      else .error ⟨.loneSurrogate, mark'⟩ := by
  obtain ⟨mark₁, hescape⟩ :=
    readEscape_unit hfirst ('\\' :: 'u' :: a' :: b' :: c' :: d' :: rest) mark
  obtain ⟨mark₂, hunit⟩ := readUnit_of_isAllowed hsecond rest
    (Cursor.markAfter (Cursor.markAfter mark₁ '\\') 'u')
  have hpair : (readPairChar ⟨'\\' :: 'u' :: a' :: b' :: c' :: d' :: rest, mark₁⟩ '\\').bind
      (readPairChar · 'u') = .ok ⟨a' :: b' :: c' :: d' :: rest,
        Cursor.markAfter (Cursor.markAfter mark₁ '\\') 'u'⟩ := rfl
  refine ⟨mark₂, ?_⟩
  rw [hescape, if_neg htrail, if_pos hlead, hpair]
  dsimp only
  rw [hunit]
  rfl

/-- Behind the first half of a pair only a code unit can follow. -/
theorem readPairChar_pieces {pieces : List Piece} (hpieces : ∀ p ∈ pieces, p.IsAllowed)
    (hunit : ∀ a b c d rest, pieces ≠ .unit a b c d :: rest) (rest : List Char) (mark : Mark) :
    ∃ e, (readPairChar ⟨pieces.flatMap Piece.chars ++ '"' :: rest, mark⟩ '\\').bind
      (readPairChar · 'u') = .error e := by
  cases pieces with
  | nil => exact ⟨_, rfl⟩
  | cons p pieces =>
    cases p with
    | plain c =>
      have hback : '\\' ≠ c := Ne.symm (hpieces (.plain c) List.mem_cons_self).2.1
      simp [Piece.chars, readPairChar, hback, Except.bind]
    | short letter =>
      have hletter : 'u' ≠ letter := by
        rintro rfl
        exact absurd (Piece.isSome_lookup (hpieces (.short 'u') List.mem_cons_self)) (by decide)
      simp [Piece.chars, readPairChar, hletter, Except.bind]
    | unit a b c d => exact absurd rfl (hunit a b c d pieces)

theorem map_cons_map_append (o : Option (List Char)) (c : Char) (acc : List Char) :
    (o.map (c :: ·)).map (acc.reverse ++ ·) = o.map ((c :: acc).reverse ++ ·) := by
  cases o <;> simp

/-- The pieces of a string are read up to the closing quote, unless they stand for no text. -/
theorem outcome_readChars {pieces : List Piece} (hpieces : ∀ p ∈ pieces, p.IsAllowed) {fuel : Nat}
    (hfuel : pieces.length ≤ fuel) (acc rest : List Char) (mark : Mark) :
    Outcome ((textOf pieces).map (acc.reverse ++ ·)) rest
      (readChars (fuel + 1) acc ⟨pieces.flatMap Piece.chars ++ '"' :: rest, mark⟩) := by
  fun_induction textOf pieces generalizing fuel acc mark with
  | case1 =>
    refine ⟨Cursor.markAfter mark '"', ?_⟩
    simp [readChars]
  | case2 c pieces ih =>
    obtain ⟨hc, hpieces⟩ := List.forall_mem_cons.1 hpieces
    obtain ⟨fuel, rfl⟩ := Nat.exists_eq_add_of_le' (Nat.le_trans (by simp) hfuel : 1 ≤ fuel)
    have hrest := ih hpieces (Nat.le_of_succ_le_succ hfuel) (c :: acc) (Cursor.markAfter mark c)
    rw [map_cons_map_append, List.flatMap_cons, Piece.chars, List.append_assoc,
      List.singleton_append, readChars_plain hc]
    exact hrest
  | case3 letter pieces ih =>
    obtain ⟨hletter, hpieces⟩ := List.forall_mem_cons.1 hpieces
    obtain ⟨c, hc⟩ := Option.isSome_iff_exists.1 (Piece.isSome_lookup hletter)
    obtain ⟨fuel, rfl⟩ := Nat.exists_eq_add_of_le' (Nat.le_trans (by simp) hfuel : 1 ≤ fuel)
    have hrest := ih hpieces (Nat.le_of_succ_le_succ hfuel) (c :: acc)
      (Cursor.markAfter (Cursor.markAfter mark '\\') letter)
    rw [hc, Option.bind_some, map_cons_map_append, List.flatMap_cons, Piece.chars]
    simp only [List.cons_append, List.nil_append]
    rw [readChars_escape, readEscape_short hc]
    exact hrest
  | case4 a b c d pieces htrail =>
    obtain ⟨mark', hescape⟩ := readEscape_unit (hpieces (.unit a b c d) List.mem_cons_self)
      (pieces.flatMap Piece.chars ++ '"' :: rest) (Cursor.markAfter mark '\\')
    refine ⟨⟨.loneSurrogate, mark'⟩, ?_⟩
    rw [List.flatMap_cons, Piece.chars]
    simp only [List.cons_append, List.nil_append]
    rw [readChars_escape, hescape, if_pos htrail]
  | case5 a b c d htrail hlead a' b' c' d' pieces htrail' ih =>
    obtain ⟨hfirst, hpieces⟩ := List.forall_mem_cons.1 hpieces
    obtain ⟨hsecond, hpieces⟩ := List.forall_mem_cons.1 hpieces
    obtain ⟨fuel, rfl⟩ := Nat.exists_eq_add_of_le' (Nat.le_trans (by simp) hfuel : 1 ≤ fuel)
    obtain ⟨mark', hescape⟩ := readEscape_pair hfirst hsecond htrail hlead
      (pieces.flatMap Piece.chars ++ '"' :: rest) (Cursor.markAfter mark '\\')
    have hrest := ih hpieces (Nat.le_of_succ_le (Nat.le_of_succ_le_succ hfuel))
      (Char.ofNat (0x10000 + (unitOf a b c d - 0xD800) * 1024 + (unitOf a' b' c' d' - 0xDC00)) ::
        acc) mark'
    rw [map_cons_map_append, List.flatMap_cons, List.flatMap_cons, Piece.chars, Piece.chars]
    simp only [List.cons_append, List.nil_append]
    rw [readChars_escape, hescape, if_pos htrail']
    exact hrest
  | case6 a b c d htrail hlead a' b' c' d' pieces htrail' =>
    obtain ⟨hfirst, hpieces⟩ := List.forall_mem_cons.1 hpieces
    obtain ⟨hsecond, hpieces⟩ := List.forall_mem_cons.1 hpieces
    obtain ⟨mark', hescape⟩ := readEscape_pair hfirst hsecond htrail hlead
      (pieces.flatMap Piece.chars ++ '"' :: rest) (Cursor.markAfter mark '\\')
    refine ⟨⟨.loneSurrogate, mark'⟩, ?_⟩
    rw [List.flatMap_cons, List.flatMap_cons, Piece.chars, Piece.chars]
    simp only [List.cons_append, List.nil_append]
    rw [readChars_escape, hescape, if_neg htrail']
  | case7 a b c d pieces htrail hlead hunit =>
    obtain ⟨hfirst, hpieces⟩ := List.forall_mem_cons.1 hpieces
    obtain ⟨mark', hescape⟩ := readEscape_unit hfirst
      (pieces.flatMap Piece.chars ++ '"' :: rest) (Cursor.markAfter mark '\\')
    obtain ⟨e, hpair⟩ := readPairChar_pieces hpieces
      (fun a b c d rest heq => hunit a b c d rest heq) rest mark'
    refine ⟨e, ?_⟩
    rw [List.flatMap_cons, Piece.chars]
    simp only [List.cons_append, List.nil_append]
    rw [readChars_escape, hescape, if_neg htrail, if_pos hlead, hpair]
  | case8 a b c d pieces htrail hlead ih =>
    obtain ⟨hunit, hpieces⟩ := List.forall_mem_cons.1 hpieces
    obtain ⟨fuel, rfl⟩ := Nat.exists_eq_add_of_le' (Nat.le_trans (by simp) hfuel : 1 ≤ fuel)
    obtain ⟨mark', hescape⟩ := readEscape_unit hunit
      (pieces.flatMap Piece.chars ++ '"' :: rest) (Cursor.markAfter mark '\\')
    have hrest := ih hpieces (Nat.le_of_succ_le_succ hfuel)
      (Char.ofNat (unitOf a b c d) :: acc) mark'
    rw [map_cons_map_append, List.flatMap_cons, Piece.chars]
    simp only [List.cons_append, List.nil_append]
    rw [readChars_escape, hescape, if_neg htrail, if_neg hlead]
    exact hrest

/-- A string is read behind its opening quote, unless it stands for no text. -/
theorem outcome_readText {pieces : List Piece} (hpieces : ∀ p ∈ pieces, p.IsAllowed)
    (rest : List Char) (mark : Mark) :
    Outcome (stringOf pieces) rest
      (readText ⟨pieces.flatMap Piece.chars ++ '"' :: rest, mark⟩) := by
  have hfuel : pieces.length ≤ (pieces.flatMap Piece.chars ++ '"' :: rest).length := by
    have hlength := length_le_length_chars pieces
    rw [List.length_append]
    omega
  have hchars := (outcome_readChars hpieces hfuel [] rest mark).map String.ofList
  simp only [List.reverse_nil, List.nil_append, Option.map_id'] at hchars
  exact hchars

/-- The text of a string. -/
def Value.string? : Value → Option String
  | .string text => text
  | _ => none

theorem exists_refuseValue {α : Type} (wanted : String) (k : Cursor) :
    ∃ e, (refuseValue wanted k : Except Error α) = .error e := by
  unfold refuseValue
  split
  next e _ => exact ⟨e, rfl⟩
  next => exact ⟨_, rfl⟩

theorem means_wantedString (wanted : String) : Means (readWantedString wanted) Value.string? := by
  intro v cs h gap rest hgap _ mark
  obtain ⟨c, tail, rfl, hc⟩ := h.exists_cons
  obtain ⟨mark₁, hblanks⟩ := skipBlanks_append hgap hc.isBlank (tail ++ rest) mark
  rw [List.cons_append, readWantedString, hblanks]
  by_cases hquote : c = '"'
  · obtain ⟨text, rfl⟩ := hc.string_iff.1 hquote
    cases h with
    | string hpieces =>
      dsimp only [Cursor.peek?_cons, Cursor.advance_cons]
      rw [List.append_assoc]
      exact outcome_readText hpieces rest (Cursor.markAfter mark₁ '"')
  · have hmeaning : v.string? = none := by
      cases v with
      | string text => exact absurd (hc.string_iff.2 ⟨text, rfl⟩) hquote
      | _ => rfl
    rw [hmeaning]
    dsimp only [Cursor.peek?_cons]
    split
    next heq => cases heq
    next heq => exact absurd (Option.some.inj heq) hquote
    next => exact exists_refuseValue wanted _

/-! ### Lists -/

/-- Texts one behind the other, the first without a comma in front of it if `first` says so. -/
def listedFrom (first : Bool) (texts : List (List Char)) : List Char :=
  if first then betweenCommas texts else behindCommas texts

theorem length_le_length_betweenCommas (texts : List (List Char)) :
    texts.length ≤ (betweenCommas texts).length + 1 := by
  have hbehind (texts : List (List Char)) : texts.length ≤ (behindCommas texts).length := by
    induction texts with
    | nil => exact Nat.le_refl _
    | cons text texts ih =>
      rw [behindCommas, List.flatMap_cons, ← behindCommas, List.length_append]
      simp only [List.length_cons]
      omega
  cases texts with
  | nil => exact Nat.zero_le _
  | cons text texts =>
    have hlength := hbehind texts
    rw [betweenCommas, List.length_append, List.length_cons]
    omega

@[simp] theorem listedFrom_nil (first : Bool) : listedFrom first [] = [] := by cases first <;> rfl

/-- What is behind a text of a list. -/
theorem listedFrom_cons (first : Bool) (text : List Char) (texts : List (List Char)) :
    listedFrom first (text :: texts) =
      (if first then [] else [',']) ++ (text ++ listedFrom false texts) := by
  cases first <;> rfl

/-- A value with only blanks around it. -/
structure IsSpaced (v : Value) (x : Spaced) : Prop where
  before : AreBlank x.before
  spelled : IsSpelled v x.core
  after : AreBlank x.after

theorem moreElements_end {gap : List Char} (hgap : AreBlank gap) (first : Bool) (rest : List Char)
    (mark : Mark) :
    ∃ mark', moreElements first ⟨gap ++ ']' :: rest, mark⟩ = .ok (false, ⟨']' :: rest, mark'⟩) := by
  obtain ⟨mark', hblanks⟩ := skipBlanks_append hgap (c := ']') rfl rest mark
  refine ⟨mark', ?_⟩
  rw [moreElements, hblanks]
  rfl

/-- In front of an element there is one more, and blanks are skipped. -/
theorem moreElements_listed {gap : List Char} (hgap : AreBlank gap) (first : Bool) {v : Value}
    {x : Spaced} (hx : IsSpaced v x) (rest : List Char) (mark : Mark) :
    ∃ mark', moreElements first ⟨gap ++ ((if first then [] else [',']) ++ (x.text ++ rest)), mark⟩ =
      .ok (true, ⟨x.core ++ (x.after ++ rest), mark'⟩) := by
  obtain ⟨c, tail, hcore, hc⟩ := hx.spelled.exists_cons
  cases first with
  | true =>
    have hblank : AreBlank (gap ++ x.before) := hgap.append hx.before
    obtain ⟨mark', hblanks⟩ := skipBlanks_append hblank hc.isBlank (tail ++ (x.after ++ rest)) mark
    have htext : gap ++ ((if true = true then [] else [',']) ++ (x.text ++ rest)) =
        gap ++ x.before ++ c :: (tail ++ (x.after ++ rest)) := by
      simp [Spaced.text, hcore]
    refine ⟨mark', ?_⟩
    rw [htext, moreElements, hblanks, hcore]
    dsimp only [Cursor.peek?_cons]
    rw [if_neg hc.ne_bracket, if_pos rfl, List.cons_append]
  | false =>
    obtain ⟨mark₁, hcomma⟩ := skipBlanks_append hgap (c := ',') rfl
      (x.before ++ c :: (tail ++ (x.after ++ rest))) mark
    obtain ⟨mark₂, hblanks⟩ := skipBlanks_append hx.before hc.isBlank
      (tail ++ (x.after ++ rest)) (Cursor.markAfter mark₁ ',')
    have htext : gap ++ ((if false = true then [] else [',']) ++ (x.text ++ rest)) =
        gap ++ ',' :: (x.before ++ c :: (tail ++ (x.after ++ rest))) := by
      simp [Spaced.text, hcore]
    refine ⟨mark₂, ?_⟩
    rw [htext, moreElements, hcomma, hcore]
    dsimp only [Cursor.peek?_cons, Cursor.advance_cons]
    rw [if_neg (by decide), if_neg Bool.false_ne_true, if_pos rfl, hblanks]
    dsimp only [Cursor.peek?_cons]
    split
    next heq => exact absurd (Option.some.inj heq) hc.ne_bracket
    next => rfl
    next heq => cases heq

variable {α : Type} {element : Reader α} {meaning : Value → Option α}

theorem isDelimited_listed {after : List Char} (hafter : AreBlank after)
    (texts : List (List Char)) {d : Char} (hd : d ∈ [']', '\x7d']) (rest : List Char) :
    IsDelimited (after ++ (listedFrom false texts ++ d :: rest)) := by
  refine .append hafter ?_
  cases texts with
  | nil =>
    refine isDelimited_cons ?_ rest
    simp only [List.mem_cons, List.not_mem_nil, or_false] at hd
    rcases hd with rfl | rfl <;> decide
  | cons text texts =>
    rw [listedFrom_cons]
    exact isDelimited_cons (by decide) _

/-- The meanings of values, if each of them has one. -/
def meaningsOf (meaning : Value → Option α) : List Value → Option (List α)
  | [] => some []
  | v :: vs => (meaning v).bind fun x => (meaningsOf meaning vs).map (x :: ·)

/-- Elements are read up to the closing bracket, unless one of them has no meaning. -/
theorem outcome_readElements (h : Means element meaning) {xs : List (Value × Spaced)}
    (hxs : ∀ x ∈ xs, IsSpaced x.1 x.2) {fuel : Nat} (hfuel : xs.length < fuel) (first : Bool)
    {gap : List Char} (hgap : AreBlank gap) (rest : List Char) (mark : Mark) :
    Outcome (meaningsOf meaning (xs.map (·.1))) (']' :: rest) (readElements element fuel first
      ⟨gap ++ (listedFrom first (xs.map (·.2.text)) ++ ']' :: rest), mark⟩) := by
  induction xs generalizing fuel first gap mark with
  | nil =>
    obtain ⟨fuel, rfl⟩ := Nat.exists_eq_succ_of_ne_zero (Nat.ne_of_gt hfuel)
    obtain ⟨mark', hmore⟩ := moreElements_end hgap first rest mark
    refine ⟨mark', ?_⟩
    rw [List.map_nil, listedFrom_nil, List.nil_append, readElements, hmore]
  | cons x xs ih =>
    obtain ⟨hx, hxs⟩ := List.forall_mem_cons.1 hxs
    obtain ⟨fuel, rfl⟩ := Nat.exists_eq_succ_of_ne_zero (Nat.ne_of_gt (Nat.zero_lt_of_lt hfuel))
    obtain ⟨mark₁, hmore⟩ := moreElements_listed hgap first hx
      (listedFrom false (xs.map (·.2.text)) ++ ']' :: rest) mark
    have hvalue := h x.1 x.2.core hx.spelled [] _ areBlank_nil
      (isDelimited_listed hx.after (xs.map (·.2.text)) (d := ']') (by decide) rest) mark₁
    rw [List.map_cons, List.map_cons, listedFrom_cons, meaningsOf, List.append_assoc,
      List.append_assoc, readElements, hmore]
    rw [List.nil_append] at hvalue
    dsimp only
    obtain ⟨hmeaning, e, hvalue⟩ | ⟨a, mark₂, hmeaning, hvalue⟩ := hvalue.cases
    · rw [hmeaning, hvalue]
      exact ⟨e, rfl⟩
    · have hrest := (ih hxs (Nat.lt_of_succ_lt_succ hfuel) false hx.after mark₂).map (a :: ·)
      rw [hmeaning, hvalue]
      exact hrest

/-- The list of the meanings of the elements of an array. -/
def Value.list? (meaning : Value → Option α) : Value → Option (List α)
  | .array elements => meaningsOf meaning elements
  | _ => none

/-- A reader of lists gives the list of the meanings. -/
theorem Means.list (h : Means element meaning) :
    Means (readList element) (Value.list? meaning) := by
  intro v cs hv gap rest hgap _ mark
  obtain ⟨c, tail, rfl, hc⟩ := hv.exists_cons
  obtain ⟨mark₁, hblanks⟩ := skipBlanks_append hgap hc.isBlank (tail ++ rest) mark
  rw [List.cons_append, readList, hblanks]
  by_cases hbracket : c = '['
  · obtain ⟨elements, rfl⟩ := hc.array_iff.1 hbracket
    cases hv with
    | @array inner xs hinner hblank hspelled =>
      have hxs : ∀ x ∈ xs, IsSpaced x.1 x.2 := fun x hx =>
        ⟨(hblank x hx).1, hspelled x hx, (hblank x hx).2⟩
      have htail : inner ++ (betweenCommas (xs.map (·.2.text)) ++ [']']) ++ rest =
          inner ++ (listedFrom true (xs.map (·.2.text)) ++ ']' :: rest) := by
        simp [listedFrom]
      have hfuel : xs.length <
          (inner ++ (listedFrom true (xs.map (·.2.text)) ++ ']' :: rest)).length + 1 + 1 := by
        have hlength := length_le_length_betweenCommas (xs.map (·.2.text))
        simp only [listedFrom, if_true, List.length_map, List.length_append,
          List.length_cons] at hlength ⊢
        omega
      have helements :=
        outcome_readElements h hxs hfuel true hinner rest (Cursor.markAfter mark₁ '[')
      rw [htail]
      dsimp only [Cursor.peek?_cons, Cursor.advance_cons, Value.list?, List.length_cons]
      obtain ⟨hmeaning, e, helements⟩ | ⟨as, mark₂, hmeaning, helements⟩ := helements.cases
      · rw [hmeaning, helements]
        exact ⟨e, rfl⟩
      · rw [hmeaning, helements]
        exact ⟨Cursor.markAfter mark₂ ']', rfl⟩
  · have hmeaning : v.list? meaning = none := by
      cases v with
      | array elements => exact absurd (hc.array_iff.2 ⟨elements, rfl⟩) hbracket
      | _ => rfl
    rw [hmeaning]
    dsimp only [Cursor.peek?_cons]
    split
    next heq => cases heq
    next heq => exact absurd (Option.some.inj heq) hbracket
    next => exact exists_refuseValue "a sequence" _

/-! ### Records -/

/-- A member with only blanks around its name and its value. -/
structure IsSpacedMember (v : Value) (m : SpacedMember) : Prop where
  before : AreBlank m.before
  name : ∀ p ∈ m.name, p.IsAllowed
  after : AreBlank m.after
  value : IsSpaced v m.value

theorem moreMembers_end {gap : List Char} (hgap : AreBlank gap) (first : Bool) (rest : List Char)
    (mark : Mark) :
    ∃ mark', moreMembers first ⟨gap ++ '\x7d' :: rest, mark⟩ =
      .ok (false, ⟨'\x7d' :: rest, mark'⟩) := by
  obtain ⟨mark', hblanks⟩ := skipBlanks_append hgap (c := '\x7d') rfl rest mark
  refine ⟨mark', ?_⟩
  rw [moreMembers, hblanks]
  rfl

/-- In front of a member there is one more, and blanks are skipped. -/
theorem moreMembers_listed {gap : List Char} (hgap : AreBlank gap) (first : Bool) {v : Value}
    {m : SpacedMember} (hm : IsSpacedMember v m) (rest : List Char) (mark : Mark) :
    ∃ mark', moreMembers first ⟨gap ++ ((if first then [] else [',']) ++ (m.text ++ rest)), mark⟩ =
      .ok (true, ⟨'"' :: (m.name.flatMap Piece.chars ++ '"' ::
        (m.after ++ ':' :: (m.value.text ++ rest))), mark'⟩) := by
  have htext : m.text ++ rest = m.before ++ '"' :: (m.name.flatMap Piece.chars ++ '"' ::
      (m.after ++ ':' :: (m.value.text ++ rest))) := by
    simp [SpacedMember.text, quoted]
  rw [htext]
  generalize m.name.flatMap Piece.chars ++ '"' :: (m.after ++ ':' :: (m.value.text ++ rest)) = tail
  cases first with
  | true =>
    have hblank : AreBlank (gap ++ m.before) := hgap.append hm.before
    obtain ⟨mark', hblanks⟩ := skipBlanks_append hblank (c := '"') rfl tail mark
    refine ⟨mark', ?_⟩
    rw [if_pos rfl, List.nil_append, ← List.append_assoc, moreMembers, hblanks]
    rfl
  | false =>
    obtain ⟨mark₁, hcomma⟩ := skipBlanks_append hgap (c := ',') rfl (m.before ++ '"' :: tail) mark
    obtain ⟨mark₂, hblanks⟩ := skipBlanks_append hm.before (c := '"') rfl tail
      (Cursor.markAfter mark₁ ',')
    refine ⟨mark₂, ?_⟩
    rw [if_neg Bool.false_ne_true, List.singleton_append, moreMembers, hcomma]
    dsimp only [Cursor.peek?_cons, Cursor.advance_cons]
    rw [hblanks]
    rfl

/-- The colon behind a name is read. -/
theorem readColon_spaced {gap : List Char} (hgap : AreBlank gap) (rest : List Char) (mark : Mark) :
    ∃ mark', readColon ⟨gap ++ ':' :: rest, mark⟩ = .ok ⟨rest, mark'⟩ := by
  obtain ⟨mark', hblanks⟩ := skipBlanks_append hgap (c := ':') rfl rest mark
  refine ⟨Cursor.markAfter mark' ':', ?_⟩
  rw [readColon, hblanks]
  rfl

section Record

variable {σ : Type} {fields : List (Field σ)} {update : String → σ → Value → Option σ}

/-- The fields of a record, filled in the order of the members of an object. Members of other names
count for nothing, and no field is filled twice. -/
def fillByName (fields : List (Field σ)) (update : String → σ → Value → Option σ) :
    σ → List (Option String × Value) → Option σ
  | s, [] => some s
  | _, (none, _) :: _ => none
  | s, (some name, v) :: members =>
    match fields.find? (·.name == name) with
    | none => fillByName fields update s members
    | some f =>
      if f.isSet s then none
      else (update f.name s v).bind fun s => fillByName fields update s members

/-- The fields of a record, filled by the elements of an array, as many as there are. -/
def fillInOrder (update : String → σ → Value → Option σ) :
    List (Field σ) → σ → List Value → Option σ
  | [], s, [] => some s
  | [], _, _ :: _ => none
  | f :: fields, s, [] => if f.optional then fillInOrder update fields s [] else none
  | f :: fields, s, v :: vs => (update f.name s v).bind fun s => fillInOrder update fields s vs

/-- Reading the fields of a record comes to the end of the record, where it goes on with `rest`, or
to an error there or before. -/
def Ends (ending : Cursor → Cursor × Option Error) (meaning : Option σ) (rest : List Char)
    (result : Except RecordError (σ × Cursor)) : Prop :=
  match meaning with
  | some s => ∃ k mark, result = .ok (s, k) ∧ ending k = (⟨rest, mark⟩, none)
  | none => (∃ e, result = .error e) ∨ ∃ s k k' e, result = .ok (s, k) ∧ ending k = (k', some e)

theorem Ends.of_error {ending : Cursor → Cursor × Option Error} {rest : List Char}
    (e : RecordError) : Ends ending (none : Option σ) rest (.error e) := .inl ⟨e, rfl⟩

/-- The members are read up to the closing brace, unless the fields cannot be filled. -/
theorem ends_readFieldsByName
    (h : ∀ f ∈ fields, ∀ s, Means (f.read s) (update f.name s)) {ms : List (Value × SpacedMember)}
    (hms : ∀ m ∈ ms, IsSpacedMember m.1 m.2) {fuel : Nat} (hfuel : ms.length < fuel) (first : Bool)
    (s : σ) {gap : List Char} (hgap : AreBlank gap) (rest : List Char) (mark : Mark) :
    Ends objectEnd (fillByName fields update s (ms.map fun m => (stringOf m.2.name, m.1))) rest
      (readFieldsByName fields fuel first s
        ⟨gap ++ (listedFrom first (ms.map (·.2.text)) ++ '\x7d' :: rest), mark⟩) := by
  induction ms generalizing fuel first s gap mark with
  | nil =>
    obtain ⟨fuel, rfl⟩ := Nat.exists_eq_succ_of_ne_zero (Nat.ne_of_gt hfuel)
    obtain ⟨mark', hmore⟩ := moreMembers_end hgap first rest mark
    refine ⟨⟨'\x7d' :: rest, mark'⟩, Cursor.markAfter mark' '\x7d', ?_, rfl⟩
    rw [List.map_nil, listedFrom_nil, List.nil_append, readFieldsByName, hmore]
  | cons m ms ih =>
    obtain ⟨hm, hms⟩ := List.forall_mem_cons.1 hms
    obtain ⟨fuel, rfl⟩ := Nat.exists_eq_succ_of_ne_zero (Nat.ne_of_gt (Nat.zero_lt_of_lt hfuel))
    have hothers (s : σ) (mark : Mark) :=
      ih hms (Nat.lt_of_succ_lt_succ hfuel) false s hm.value.after mark
    generalize htail : listedFrom false (ms.map (·.2.text)) ++ '\x7d' :: rest = tail at hothers
    have hdelimited : IsDelimited (m.2.value.after ++ tail) :=
      htail ▸ isDelimited_listed hm.value.after (ms.map (·.2.text)) (by decide) rest
    obtain ⟨mark₁, hmore⟩ := moreMembers_listed hgap first hm tail mark
    have hname := outcome_readText hm.name (m.2.after ++ ':' :: (m.2.value.text ++ tail))
      (Cursor.markAfter mark₁ '"')
    rw [List.map_cons, List.map_cons, listedFrom_cons, List.append_assoc, List.append_assoc, htail,
      readFieldsByName, hmore]
    dsimp only [Cursor.advance_cons]
    obtain ⟨hkey, e, hname⟩ | ⟨key, mark₂, hkey, hname⟩ := hname.cases
    · rw [hkey, hname]
      exact .of_error _
    · obtain ⟨mark₃, hcolon⟩ := readColon_spaced hm.after (m.2.value.text ++ tail) mark₂
      have hvalueText : m.2.value.text ++ tail =
          m.2.value.before ++ (m.2.value.core ++ (m.2.value.after ++ tail)) := by
        simp [Spaced.text]
      rw [hkey, hname]
      dsimp only
      rw [fillByName]
      cases hfind : fields.find? (·.name == key) with
      | none =>
        dsimp only
        obtain ⟨mark₄, hskip⟩ :=
          hm.value.spelled.exists_skipValue hm.value.before hdelimited mark₃
        rw [hcolon, Except.bind, hvalueText, hskip]
        exact hothers s mark₄
      | some f =>
        dsimp only
        by_cases hset : f.isSet s = true
        · rw [if_pos hset, if_pos hset]
          exact .of_error _
        · rw [if_neg hset, if_neg hset, hcolon, Except.bind, hvalueText]
          have hvalue := h f (List.mem_of_find?_eq_some hfind) s m.1 m.2.value.core hm.value.spelled
            m.2.value.before _ hm.value.before hdelimited mark₃
          obtain ⟨hmeaning, e, hvalue⟩ | ⟨s', mark₄, hmeaning, hvalue⟩ := hvalue.cases
          · rw [hmeaning, hvalue]
            exact .of_error _
          · rw [hmeaning, hvalue]
            exact hothers s' mark₄

/-- The end of an array is reached behind blanks, and not in front of one more element. -/
theorem ends_listEnd {after : List Char} (hafter : AreBlank after) (s : σ) (rest : List Char)
    (mark : Mark) :
    Ends listEnd (some s) rest (.ok (s, ⟨after ++ ']' :: rest, mark⟩)) := by
  obtain ⟨mark', hblanks⟩ := skipBlanks_append hafter (c := ']') rfl rest mark
  refine ⟨_, Cursor.markAfter mark' ']', rfl, ?_⟩
  rw [listEnd, hblanks]
  rfl

/-- An array does not end in front of one more element. -/
theorem ends_listEnd_of_more {gap : List Char} (hgap : AreBlank gap) (first : Bool) {v : Value}
    {x : Spaced} (hx : IsSpaced v x) (s : σ) (behind rest : List Char) (mark : Mark) :
    Ends listEnd (none : Option σ) rest
      (.ok (s, ⟨gap ++ ((if first then [] else [',']) ++ (x.text ++ behind)), mark⟩)) := by
  obtain ⟨c, tail, hcore, hc⟩ := hx.spelled.exists_cons
  have hmore {k : Cursor} {d : Char} {cs : List Char} {mark' : Mark} (hd : d ≠ ']')
      (hk : k.skipBlanks = ⟨d :: cs, mark'⟩) :
      Ends listEnd (none : Option σ) rest (.ok (s, k)) := by
    have hend : ∃ k' e, listEnd k = (k', some e) := by
      rw [listEnd, hk]
      dsimp only [Cursor.peek?_cons]
      split
      next heq => exact absurd (Option.some.inj heq) hd
      next => split <;> exact ⟨_, _, rfl⟩
      next => exact ⟨_, _, rfl⟩
      next => exact ⟨_, _, rfl⟩
    obtain ⟨k', e, hend⟩ := hend
    exact .inr ⟨s, k, k', e, rfl, hend⟩
  cases first with
  | true =>
    have hblank : AreBlank (gap ++ x.before) := hgap.append hx.before
    obtain ⟨mark', hblanks⟩ :=
      skipBlanks_append hblank hc.isBlank (tail ++ (x.after ++ behind)) mark
    have hfirst : Cursor.skipBlanks
        ⟨gap ++ ((if true = true then [] else [',']) ++ (x.text ++ behind)), mark⟩ =
          ⟨c :: (tail ++ (x.after ++ behind)), mark'⟩ := by
      simpa [Spaced.text, hcore] using hblanks
    exact hmore hc.ne_bracket hfirst
  | false =>
    obtain ⟨mark', hblanks⟩ := skipBlanks_append hgap (c := ',') rfl (x.text ++ behind) mark
    exact hmore (by decide) hblanks

/-- The elements are read up to the closing bracket, unless the fields cannot be filled. -/
theorem ends_readFieldsInOrder (wanted : String)
    (h : ∀ f ∈ fields, ∀ s, Means (f.read s) (update f.name s)) {xs : List (Value × Spaced)}
    (hxs : ∀ x ∈ xs, IsSpaced x.1 x.2) (index : Nat) (s : σ) {gap : List Char} (hgap : AreBlank gap)
    (rest : List Char) (mark : Mark) :
    Ends listEnd (fillInOrder update fields s (xs.map (·.1))) rest
      (readFieldsInOrder wanted fields index s
        ⟨gap ++ (listedFrom (index = 0) (xs.map (·.2.text)) ++ ']' :: rest), mark⟩) := by
  induction fields generalizing xs index s gap mark with
  | nil =>
    cases xs with
    | nil =>
      simp only [List.map_nil, listedFrom_nil, List.nil_append]
      exact ends_listEnd hgap s rest mark
    | cons x xs =>
      obtain ⟨hx, -⟩ := List.forall_mem_cons.1 hxs
      rw [List.map_cons, List.map_cons, listedFrom_cons, List.append_assoc, List.append_assoc]
      exact ends_listEnd_of_more hgap _ hx s _ rest mark
  | cons f fields ih =>
    obtain ⟨hf, hfields⟩ := List.forall_mem_cons.1 h
    cases xs with
    | nil =>
      obtain ⟨mark', hmore⟩ := moreElements_end hgap (decide (index = 0)) rest mark
      simp only [List.map_nil, listedFrom_nil, List.nil_append]
      rw [readFieldsInOrder, hmore]
      dsimp only
      rw [fillInOrder]
      by_cases hoptional : f.optional = true
      · have hrest := ih hfields hxs (index + 1) s areBlank_nil mark'
        simp only [List.map_nil, listedFrom_nil, List.nil_append] at hrest
        rw [if_pos hoptional, if_pos hoptional]
        exact hrest
      · rw [if_neg hoptional, if_neg hoptional]
        exact .of_error _
    | cons x xs =>
      obtain ⟨hx, hxs⟩ := List.forall_mem_cons.1 hxs
      obtain ⟨mark₁, hmore⟩ := moreElements_listed hgap (decide (index = 0)) hx
        (listedFrom false (xs.map (·.2.text)) ++ ']' :: rest) mark
      have hvalue := hf s x.1 x.2.core hx.spelled [] _ areBlank_nil
        (isDelimited_listed hx.after (xs.map (·.2.text)) (d := ']') (by decide) rest) mark₁
      rw [List.map_cons, List.map_cons, listedFrom_cons, fillInOrder, List.append_assoc,
        List.append_assoc, readFieldsInOrder, hmore]
      rw [List.nil_append] at hvalue
      dsimp only
      obtain ⟨hmeaning, e, hvalue⟩ | ⟨s', mark₂, hmeaning, hvalue⟩ := hvalue.cases
      · rw [hmeaning, hvalue]
        exact .of_error _
      · rw [hmeaning, hvalue]
        exact ih hfields hxs (index + 1) s' hx.after mark₂

variable {α : Type}

/-- A record is made of the fields that were read, if its end is reached and no field is missing. -/
theorem Ends.outcome {ending : Cursor → Cursor × Option Error} {meaning : Option σ}
    {rest : List Char} {result : Except RecordError (σ × Cursor)}
    (h : Ends ending meaning rest result) (shape : Shape σ α) :
    Outcome (meaning.bind fun s => (shape.finish s).toOption) rest
      (placedAt ending (finished shape result)) := by
  cases meaning with
  | some s =>
    obtain ⟨k, mark, rfl, hend⟩ := h
    rw [Option.bind_some, finished]
    cases shape.finish s with
    | error name => exact ⟨_, rfl⟩
    | ok x => exact ⟨mark, by rw [placedAt, hend, closed]⟩
  | none =>
    obtain ⟨e, rfl⟩ | ⟨s, k, k', e, rfl, hend⟩ := h
    · cases e <;> exact ⟨_, rfl⟩
    · rw [finished]
      cases shape.finish s with
      | error name => exact ⟨_, rfl⟩
      | ok x => exact ⟨e, by rw [placedAt, hend, closed]⟩

/-- The record made of the members of an object, or of the elements of an array. -/
def Value.record? (shape : Shape σ α) (update : String → σ → Value → Option σ) (start : σ) :
    Value → Option α
  | .object members =>
    (fillByName shape.fields update start members).bind fun s => (shape.finish s).toOption
  | .array elements =>
    (fillInOrder update shape.fields start elements).bind fun s => (shape.finish s).toOption
  | _ => none

/-- A reader of records gives the record of the meanings of its fields. -/
theorem Means.record {shape : Shape σ α}
    (h : ∀ f ∈ shape.fields, ∀ s, Means (f.read s) (update f.name s)) (start : σ) :
    Means (readRecord shape start) (Value.record? shape update start) := by
  intro v cs hv gap rest hgap _ mark
  obtain ⟨c, tail, rfl, hc⟩ := hv.exists_cons
  obtain ⟨mark₁, hblanks⟩ := skipBlanks_append hgap hc.isBlank (tail ++ rest) mark
  rw [List.cons_append, readRecord, hblanks]
  by_cases hbracket : c = '['
  · obtain ⟨elements, rfl⟩ := hc.array_iff.1 hbracket
    cases hv with
    | @array inner xs hinner hblank hspelled =>
      have hxs : ∀ x ∈ xs, IsSpaced x.1 x.2 := fun x hx =>
        ⟨(hblank x hx).1, hspelled x hx, (hblank x hx).2⟩
      have hfields := ends_readFieldsInOrder (lengthWanted shape) h hxs 0 start hinner rest
        (Cursor.markAfter mark₁ '[')
      have htail : inner ++ (betweenCommas (xs.map (·.2.text)) ++ [']']) ++ rest =
          inner ++ (listedFrom (decide (0 = 0)) (xs.map (·.2.text)) ++ ']' :: rest) := by
        simp [listedFrom]
      rw [htail]
      exact hfields.outcome shape
  by_cases hbrace : c = '\x7b'
  · obtain ⟨members, rfl⟩ := hc.object_iff.1 hbrace
    cases hv with
    | @object inner ms hinner hname hblank hspelled =>
      have hms : ∀ m ∈ ms, IsSpacedMember m.1 m.2 := by
        intro m hm
        obtain ⟨hbefore, hafter, hvalueBefore, hvalueAfter⟩ := hblank m hm
        exact ⟨hbefore, hname m hm, hafter, hvalueBefore, hspelled m hm, hvalueAfter⟩
      have htail : inner ++ (betweenCommas (ms.map (·.2.text)) ++ ['\x7d']) ++ rest =
          inner ++ (listedFrom true (ms.map (·.2.text)) ++ '\x7d' :: rest) := by
        simp [listedFrom]
      have hfuel : ms.length <
          (inner ++ (listedFrom true (ms.map (·.2.text)) ++ '\x7d' :: rest)).length + 1 + 1 := by
        have hlength := length_le_length_betweenCommas (ms.map (·.2.text))
        simp only [listedFrom, if_true, List.length_map, List.length_append,
          List.length_cons] at hlength ⊢
        omega
      have hfields :=
        ends_readFieldsByName h hms hfuel true start hinner rest (Cursor.markAfter mark₁ '\x7b')
      rw [htail]
      exact hfields.outcome shape
  · have hmeaning : v.record? shape update start = none := by
      cases v with
      | array elements => exact absurd (hc.array_iff.2 ⟨elements, rfl⟩) hbracket
      | object members => exact absurd (hc.object_iff.2 ⟨members, rfl⟩) hbrace
      | _ => rfl
    rw [hmeaning]
    dsimp only [Cursor.peek?_cons]
    split
    next heq => cases heq
    next heq => exact absurd (Option.some.inj heq) hbracket
    next heq => exact absurd (Option.some.inj heq) hbrace
    next => exact exists_refuseValue _ _

end Record

/-! ### Documents -/

/-- The reader of a document gives the meaning of the value that the document stands for. -/
theorem Means.document {α : Type} {read : Reader α} {meaning : Value → Option α}
    (h : Means read meaning) {v : Value} {text : String} (hv : v.IsSpelledIn text) :
    (document read text).toOption = meaning v := by
  obtain ⟨x, hbefore, hafter, hspelled, rfl⟩ := hv
  have hread := h v x.core hspelled x.before x.after hbefore
    (List.append_nil x.after ▸ .append hafter isDelimited_nil) (Cursor.start "").mark
  have hstart : Cursor.start (String.ofList x.text) =
      ⟨x.before ++ (x.core ++ x.after), (Cursor.start "").mark⟩ := by
    simp [Cursor.start, Spaced.text]
  rw [Json.document, hstart]
  obtain ⟨hmeaning, e, hread⟩ | ⟨y, mark, hmeaning, hread⟩ := hread.cases
  · rw [hmeaning, hread]
    rfl
  · obtain ⟨mark', hblanks⟩ := skipBlanks_end hafter mark
    rw [hmeaning, hread]
    dsimp only
    rw [hblanks]
    rfl

end Gatehouse.Json
