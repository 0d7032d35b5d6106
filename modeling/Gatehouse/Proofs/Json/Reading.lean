import Gatehouse.Json.Record
import Gatehouse.Json.Writer
import Gatehouse.Proofs.Text.Numerals

/-!
# Reading what has been written

A string that has been written is read back, with all its escapes, and so is a record that has
been written as an object: each member is read by the field of its name. A reader only depends on
the characters that it takes, and not on what follows or on the place in the document, so what is
read from a written value can be said once for all documents that the value stands in.

## Main definitions

* `Json.Reads`: a reader takes a value from the front of every text that starts with some
  characters.
* `Json.Fills`: the members of an object fill the fields of a record, one after the other.

## Main results

* `Json.reads_wantedString`: a string is read back.
* `Json.reads_list`, `Json.reads_members`: a list and the entries of a dictionary are read back.
* `Json.reads_record`: a record is read from an object whose members fill its fields.
* `Json.document_eq_ok_of_reads`: what is read from a value is read from a document of it.
-/

namespace Gatehouse.Json

/-- A reader takes a value from the front of every text that starts with some characters, and
stops right behind them. -/
def Reads {α : Type} (read : Reader α) (cs : List Char) (x : α) : Prop :=
  ∀ rest mark, ∃ mark', read ⟨cs ++ rest, mark⟩ = .ok (x, ⟨rest, mark'⟩)

/-- What is made of a value is read where the value is. -/
theorem Reads.map {α β : Type} {read : Reader α} {cs : List Char} {x : α} (h : Reads read cs x)
    (f : α → β) : Reads (fun k => (read k).map fun (x, k) => (f x, k)) cs (f x) := by
  intro rest mark
  obtain ⟨mark', hread⟩ := h rest mark
  refine ⟨mark', ?_⟩
  dsimp only
  rw [hread]
  rfl

@[simp] theorem Cursor.next?_cons (c : Char) (rest : List Char) (mark : Mark) :
    Cursor.next? ⟨c :: rest, mark⟩ = some (c, ⟨rest, markAfter mark c⟩) := rfl

@[simp] theorem Cursor.advance_cons (c : Char) (rest : List Char) (mark : Mark) :
    Cursor.advance ⟨c :: rest, mark⟩ = ⟨rest, markAfter mark c⟩ := rfl

@[simp] theorem Cursor.peek?_cons (c : Char) (rest : List Char) (mark : Mark) :
    Cursor.peek? ⟨c :: rest, mark⟩ = some c := rfl

/-- In front of a character that is no blank there are none to skip. -/
theorem skipBlanks_cons {c : Char} (hc : Cursor.isBlank c = false) (rest : List Char)
    (mark : Mark) : Cursor.skipBlanks ⟨c :: rest, mark⟩ = ⟨c :: rest, mark⟩ := by
  simp only [Cursor.skipBlanks, Cursor.skipBlanksFrom, hc, Bool.false_eq_true, if_false]

/-- What is read from a value is read from a document of it. -/
theorem document_eq_ok_of_reads {α : Type} {read : Reader α} {cs : List Char} {x : α}
    (h : Reads read cs x) : document read (String.ofList cs) = .ok x := by
  obtain ⟨mark, hread⟩ := h [] ⟨1, 0⟩
  rw [List.append_nil] at hread
  simp only [document, Cursor.start, String.toList_ofList, hread]
  rfl

/-! ### Strings -/

/-- A control without short escape is read from its code unit. -/
theorem readEscape_control {c : Char} (hc : c.toNat < 0x20) (rest : List Char) (mark : Mark) :
    ∃ mark', readEscape ⟨'u' :: '0' :: '0' :: Nat.digitChar (c.toNat / 16) ::
      Nat.digitChar (c.toNat % 16) :: rest, mark⟩ = .ok (c, ⟨rest, mark'⟩) := by
  have hhigh := Numeral.hexDigit?_digitChar (d := c.toNat / 16) (by omega)
  have hlow := Numeral.hexDigit?_digitChar (d := c.toNat % 16) (by omega)
  have hzero : Numeral.hexDigit? '0' = some 0 := rfl
  have hpoint : 0 * 4096 + 0 * 256 + c.toNat / 16 * 16 + c.toNat % 16 = c.toNat := by omega
  have htrail : isTrail c.toNat = false := by simp [isTrail]; omega
  have hlead : isLead c.toNat = false := by simp [isLead]; omega
  have hunit : ∀ mark : Mark, readUnit ⟨'0' :: '0' :: Nat.digitChar (c.toNat / 16) ::
      Nat.digitChar (c.toNat % 16) :: rest, mark⟩ =
      .ok (c.toNat, ⟨rest, ⟨mark.line, mark.column + 4⟩⟩) := by
    intro mark
    simp only [readUnit, hzero, hhigh, hlow, hpoint]
  refine ⟨⟨(Cursor.markAfter mark 'u').line, (Cursor.markAfter mark 'u').column + 4⟩, ?_⟩
  simp only [readEscape, Cursor.next?_cons, if_true, readPoint, hunit, htrail, hlead,
    Bool.false_eq_true, if_false, Char.ofNat_toNat]

/-- Each written character is read back in one step. -/
theorem readChars_writeChar (c : Char) (fuel : Nat) (acc rest : List Char) (mark : Mark) :
    ∃ mark', readChars (fuel + 1) acc ⟨writeChar c ++ rest, mark⟩ =
      readChars fuel (c :: acc) ⟨rest, mark'⟩ := by
  unfold writeChar
  split_ifs with hquote hback hb hf hn hr ht hcontrol
  all_goals try exact ⟨_, by subst c; rfl⟩
  · obtain ⟨mark', hescape⟩ := readEscape_control hcontrol rest (Cursor.markAfter mark '\\')
    refine ⟨mark', ?_⟩
    simp only [List.cons_append, List.nil_append, readChars, Cursor.next?_cons, hescape]
    rfl
  · refine ⟨Cursor.markAfter mark c, ?_⟩
    simp only [List.cons_append, List.nil_append, readChars, Cursor.next?_cons, hquote, hback,
      hcontrol, if_false]

/-- The characters of a written string are read back up to the closing quote. -/
theorem readChars_flatMap {cs : List Char} {fuel : Nat} (hfuel : cs.length < fuel)
    (acc rest : List Char) (mark : Mark) :
    ∃ mark', readChars fuel acc ⟨cs.flatMap writeChar ++ '"' :: rest, mark⟩ =
      .ok (acc.reverse ++ cs, ⟨rest, mark'⟩) := by
  induction cs generalizing fuel acc mark with
  | nil =>
    obtain ⟨fuel, rfl⟩ := Nat.exists_eq_succ_of_ne_zero (Nat.ne_of_gt hfuel)
    exact ⟨Cursor.markAfter mark '"', by simp [readChars]⟩
  | cons c cs ih =>
    obtain ⟨fuel, rfl⟩ := Nat.exists_eq_succ_of_ne_zero (Nat.ne_of_gt (Nat.zero_lt_of_lt hfuel))
    obtain ⟨mark₁, hchar⟩ :=
      readChars_writeChar c fuel acc (cs.flatMap writeChar ++ '"' :: rest) mark
    obtain ⟨mark₂, hchars⟩ := ih (Nat.lt_of_succ_lt_succ hfuel) (c :: acc) mark₁
    exact ⟨mark₂, by simpa [hchar] using hchars⟩

/-- Nothing is written shorter than it is. -/
theorem length_le_length_flatMap (cs : List Char) : cs.length ≤ (cs.flatMap writeChar).length := by
  induction cs with
  | nil => exact Nat.le_refl _
  | cons c cs ih =>
    have hchar : 1 ≤ (writeChar c).length := by
      unfold writeChar
      split_ifs <;> simp
    rw [List.flatMap_cons, List.length_append, List.length_cons]
    omega

/-- A written string is read back behind its opening quote. -/
theorem reads_text (s : String) : Reads (fun k => readText k.advance) (writeText s) s := by
  intro rest mark
  have hfuel : s.toList.length < (s.toList.flatMap writeChar ++ '"' :: rest).length + 1 := by
    have := length_le_length_flatMap s.toList
    rw [List.length_append]
    omega
  obtain ⟨mark', hchars⟩ := readChars_flatMap hfuel [] rest (Cursor.markAfter mark '"')
  refine ⟨mark', ?_⟩
  simp only [writeText, Cursor.advance_cons, List.cons_append, List.append_assoc,
    List.nil_append, readText, hchars, Except.map, List.reverse_nil, String.ofList_toList]

/-- A written string is read back where a string is wanted. -/
theorem reads_wantedString (wanted s : String) :
    Reads (readWantedString wanted) (writeText s) s := by
  intro rest mark
  obtain ⟨mark', htext⟩ := reads_text s rest mark
  refine ⟨mark', ?_⟩
  rw [writeText, List.append_assoc, List.cons_append] at htext ⊢
  rw [readWantedString, skipBlanks_cons rfl]
  exact htext

/-! ### Objects -/

/-- What is written behind the opening brace, or behind a member: the other members, with a comma
in front of them if there are any. -/
def writeBehind (first : Bool) (members : List (String × Tree)) : List Char :=
  if first = true ∨ members = [] then writeMembers members else ',' :: writeMembers members

theorem writeMembers_cons (key : String) (value : Tree) (members : List (String × Tree)) :
    writeMembers ((key, value) :: members) =
      writeText key ++ ':' :: (value.write ++ writeBehind false members) := by
  cases members with
  | nil => simp [writeMembers, writeBehind]
  | cons member members => simp [writeMembers, writeBehind]

theorem length_le_length_writeMembers (members : List (String × Tree)) :
    members.length ≤ (writeMembers members).length := by
  induction members with
  | nil => exact Nat.le_refl _
  | cons member members ih =>
    have hbehind : (writeMembers members).length ≤ (writeBehind false members).length := by
      unfold writeBehind
      split_ifs <;> simp
    rw [writeMembers_cons]
    simp only [List.length_cons, List.length_append]
    omega

/-- In front of a member there is one more member. -/
theorem moreMembers_behind (first : Bool) (key : String) (value : Tree)
    (members : List (String × Tree)) (rest : List Char) (mark : Mark) :
    ∃ mark', moreMembers first ⟨writeBehind first ((key, value) :: members) ++ rest, mark⟩ =
      .ok (true, ⟨writeMembers ((key, value) :: members) ++ rest, mark'⟩) := by
  have hquote : ∃ cs, writeMembers ((key, value) :: members) = '"' :: cs :=
    ⟨_, by rw [writeMembers_cons, writeText, List.cons_append, List.cons_append]⟩
  obtain ⟨cs, hcs⟩ := hquote
  rw [writeBehind, hcs]
  cases first with
  | true => exact ⟨mark, rfl⟩
  | false => exact ⟨Cursor.markAfter mark ',', rfl⟩

/-- In front of the closing brace there is no further member. -/
theorem moreMembers_closing (first : Bool) (rest : List Char) (mark : Mark) :
    moreMembers first ⟨'\x7d' :: rest, mark⟩ = .ok (false, ⟨'\x7d' :: rest, mark⟩) := rfl

/-! ### Arrays -/

/-- Whether a character is the first one of a value that is written. -/
def isOpening (c : Char) : Bool := c == '"' || c == '[' || c == '\x7b'

theorem isBlank_of_isOpening {c : Char} (h : isOpening c = true) : Cursor.isBlank c = false := by
  simp only [isOpening, Bool.or_eq_true, beq_iff_eq] at h
  rcases h with (rfl | rfl) | rfl <;> decide

theorem ne_closing_of_isOpening {c : Char} (h : isOpening c = true) : c ≠ ']' := by
  rintro rfl
  exact absurd h (by decide)

/-- A value starts with the sign of its kind. -/
theorem Tree.exists_write (t : Tree) : ∃ c cs, t.write = c :: cs ∧ isOpening c = true := by
  cases t with
  | string s => exact ⟨_, _, by rw [write, writeText, List.cons_append], by decide⟩
  | array elements => exact ⟨_, _, by rw [write, List.cons_append], by decide⟩
  | object members => exact ⟨_, _, by rw [write, List.cons_append], by decide⟩

/-- What is written behind the opening bracket, or behind an element: the other elements, with a
comma in front of them if there are any. -/
def writeBehindElement (first : Bool) (elements : List Tree) : List Char :=
  if first = true ∨ elements = [] then writeElements elements else ',' :: writeElements elements

theorem writeElements_cons (x : Tree) (elements : List Tree) :
    writeElements (x :: elements) = x.write ++ writeBehindElement false elements := by
  cases elements <;> simp [writeElements, writeBehindElement]

theorem length_le_length_writeElements (elements : List Tree) :
    elements.length ≤ (writeElements elements).length := by
  induction elements with
  | nil => exact Nat.le_refl _
  | cons x elements ih =>
    obtain ⟨c, cs, hwrite, -⟩ := x.exists_write
    have hbehind : (writeElements elements).length ≤
        (writeBehindElement false elements).length := by
      unfold writeBehindElement
      split_ifs <;> simp
    rw [writeElements_cons, hwrite]
    simp only [List.length_cons, List.length_append]
    omega

/-- In front of an element there is one more element. -/
theorem moreElements_behind (first : Bool) (x : Tree) (elements : List Tree) (rest : List Char)
    (mark : Mark) :
    ∃ mark', moreElements first ⟨writeBehindElement first (x :: elements) ++ rest, mark⟩ =
      .ok (true, ⟨writeElements (x :: elements) ++ rest, mark'⟩) := by
  obtain ⟨c, cs, hwrite, hc⟩ := x.exists_write
  have hblank := isBlank_of_isOpening hc
  have hclosing := ne_closing_of_isOpening hc
  rw [writeBehindElement, writeElements_cons, hwrite]
  cases first with
  | true =>
    refine ⟨mark, ?_⟩
    rw [if_pos (.inl rfl), List.cons_append, List.cons_append, moreElements, skipBlanks_cons hblank]
    dsimp only [Cursor.peek?_cons]
    rw [if_neg hclosing, if_pos rfl]
  | false =>
    refine ⟨Cursor.markAfter mark ',', ?_⟩
    rw [if_neg (by simp), List.cons_append, List.cons_append, List.cons_append, moreElements,
      skipBlanks_cons rfl]
    dsimp only [Cursor.peek?_cons, Cursor.advance_cons]
    rw [skipBlanks_cons hblank, if_neg (by decide), if_neg Bool.false_ne_true, if_pos rfl]
    dsimp only [Cursor.peek?_cons]
    split
    next heq => exact absurd (Option.some.inj heq) hclosing
    next => rfl
    next heq => cases heq

/-- In front of the closing bracket there is no further element. -/
theorem moreElements_closing (first : Bool) (rest : List Char) (mark : Mark) :
    moreElements first ⟨']' :: rest, mark⟩ = .ok (false, ⟨']' :: rest, mark⟩) := rfl

/-- The elements are read up to the closing bracket. -/
theorem readElements_of_forall {α : Type} {element : Reader α} {elements : List Tree} {xs : List α}
    (h : List.Forall₂ (fun t x => Reads element t.write x) elements xs) {fuel : Nat}
    (hfuel : elements.length < fuel) (first : Bool) (rest : List Char) (mark : Mark) :
    ∃ mark', readElements element fuel first
        ⟨writeBehindElement first elements ++ ']' :: rest, mark⟩ =
      .ok (xs, ⟨']' :: rest, mark'⟩) := by
  induction h generalizing fuel first mark with
  | nil =>
    obtain ⟨fuel, rfl⟩ := Nat.exists_eq_succ_of_ne_zero (Nat.ne_of_gt hfuel)
    refine ⟨mark, ?_⟩
    simp only [writeBehindElement, or_true, if_true, writeElements, List.nil_append, readElements,
      moreElements_closing]
  | @cons t x elements xs hread _ ih =>
    obtain ⟨fuel, rfl⟩ := Nat.exists_eq_succ_of_ne_zero (Nat.ne_of_gt (Nat.zero_lt_of_lt hfuel))
    obtain ⟨mark₁, hmore⟩ := moreElements_behind first t elements (']' :: rest) mark
    obtain ⟨mark₂, hvalue⟩ := hread (writeBehindElement false elements ++ ']' :: rest) mark₁
    obtain ⟨mark₃, hbehind⟩ := ih (Nat.lt_of_succ_lt_succ hfuel) false mark₂
    refine ⟨mark₃, ?_⟩
    rw [readElements, hmore]
    dsimp only
    rw [writeElements_cons, List.append_assoc, hvalue]
    dsimp only
    rw [hbehind]
    rfl

/-- A list is read from an array of its elements. -/
theorem reads_list {α : Type} {element : Reader α} {elements : List Tree} {xs : List α}
    (h : List.Forall₂ (fun t x => Reads element t.write x) elements xs) :
    Reads (readList element) (Tree.array elements).write xs := by
  intro rest mark
  have htext : (Tree.array elements).write ++ rest =
      '[' :: (writeBehindElement true elements ++ ']' :: rest) := by
    simp [Tree.write, writeBehindElement]
  have hfuel : elements.length <
      (writeBehindElement true elements ++ ']' :: rest).length + 1 + 1 := by
    have hlength := length_le_length_writeElements elements
    rw [writeBehindElement, if_pos (.inl rfl), List.length_append]
    omega
  obtain ⟨mark', helements⟩ :=
    readElements_of_forall h hfuel true rest (Cursor.markAfter mark '[')
  refine ⟨Cursor.markAfter mark' ']', ?_⟩
  rw [htext, readList, skipBlanks_cons rfl]
  dsimp only [Cursor.peek?_cons, Cursor.advance_cons]
  rw [List.length_cons, helements]
  rfl

/-! ### Dictionaries -/

/-- A key and its colon are read back. -/
theorem reads_key (key : String) : Reads readKey (writeText key ++ [':']) key := by
  intro rest mark
  obtain ⟨mark', hkey⟩ := reads_text key (':' :: rest) mark
  refine ⟨Cursor.markAfter mark' ':', ?_⟩
  dsimp only at hkey
  rw [readKey, List.append_assoc, List.singleton_append, hkey]
  rfl

/-- The members are read up to the closing brace. -/
theorem readEntries_of_forall {α : Type} {value : Reader α} {members : List (String × Tree)}
    {entries : List (String × α)}
    (h : List.Forall₂ (fun m e => m.1 = e.1 ∧ Reads value m.2.write e.2) members entries)
    {fuel : Nat} (hfuel : members.length < fuel) (first : Bool) (rest : List Char) (mark : Mark) :
    ∃ mark', readEntries value fuel first
        ⟨writeBehind first members ++ '\x7d' :: rest, mark⟩ =
      .ok (entries, ⟨'\x7d' :: rest, mark'⟩) := by
  induction h generalizing fuel first mark with
  | nil =>
    obtain ⟨fuel, rfl⟩ := Nat.exists_eq_succ_of_ne_zero (Nat.ne_of_gt hfuel)
    refine ⟨mark, ?_⟩
    simp only [writeBehind, or_true, if_true, writeMembers, List.nil_append, readEntries,
      moreMembers_closing]
  | @cons m e members entries hread _ ih =>
    obtain ⟨fuel, rfl⟩ := Nat.exists_eq_succ_of_ne_zero (Nat.ne_of_gt (Nat.zero_lt_of_lt hfuel))
    obtain ⟨key, t⟩ := m
    obtain ⟨rfl, hread⟩ : key = e.1 ∧ Reads value t.write e.2 := hread
    obtain ⟨mark₁, hmore⟩ := moreMembers_behind first e.1 t members ('\x7d' :: rest) mark
    obtain ⟨mark₂, hkey⟩ := reads_key e.1
      (t.write ++ (writeBehind false members ++ '\x7d' :: rest)) mark₁
    obtain ⟨mark₃, hvalue⟩ := hread (writeBehind false members ++ '\x7d' :: rest) mark₂
    obtain ⟨mark₄, hbehind⟩ := ih (Nat.lt_of_succ_lt_succ hfuel) false mark₃
    have htext : writeMembers ((e.1, t) :: members) ++ '\x7d' :: rest =
        (writeText e.1 ++ [':']) ++ (t.write ++ (writeBehind false members ++ '\x7d' :: rest)) := by
      simp [writeMembers_cons]
    refine ⟨mark₄, ?_⟩
    rw [readEntries, hmore]
    dsimp only
    rw [htext, hkey]
    dsimp only
    rw [hvalue]
    dsimp only
    rw [hbehind]
    rfl

/-- The members of an object of any keys are read back, in order. -/
theorem reads_members {α : Type} {value : Reader α} {members : List (String × Tree)}
    {entries : List (String × α)}
    (h : List.Forall₂ (fun m e => m.1 = e.1 ∧ Reads value m.2.write e.2) members entries) :
    Reads (readMembers value) (Tree.object members).write entries := by
  intro rest mark
  have htext : (Tree.object members).write ++ rest =
      '\x7b' :: (writeBehind true members ++ '\x7d' :: rest) := by
    simp [Tree.write, writeBehind]
  have hfuel : members.length < (writeBehind true members ++ '\x7d' :: rest).length + 1 + 1 := by
    have hlength := length_le_length_writeMembers members
    rw [writeBehind, if_pos (.inl rfl), List.length_append]
    omega
  obtain ⟨mark', hentries⟩ :=
    readEntries_of_forall h hfuel true rest (Cursor.markAfter mark '\x7b')
  refine ⟨Cursor.markAfter mark' '\x7d', ?_⟩
  rw [htext, readMembers, skipBlanks_cons rfl]
  dsimp only [Cursor.peek?_cons, Cursor.advance_cons]
  rw [List.length_cons, hentries]
  rfl

/-! ### Records -/

variable {σ α : Type}

/-- The members of an object fill the fields of a record, one after the other: the field of each
name has not been read before, and reads the value. -/
inductive Fills (fields : List (Field σ)) : σ → List (String × Tree) → σ → Prop
  | nil (s : σ) : Fills fields s [] s
  | cons {s s' s'' : σ} {key : String} {value : Tree} {members : List (String × Tree)}
      {f : Field σ} (hfind : fields.find? (·.name == key) = some f) (hunset : f.isSet s = false)
      (hread : Reads (f.read s) value.write s') (hrest : Fills fields s' members s'') :
      Fills fields s ((key, value) :: members) s''

/-- The members are read up to the closing brace. -/
theorem readFieldsByName_of_fills {fields : List (Field σ)} {s s' : σ}
    {members : List (String × Tree)} (h : Fills fields s members s') {fuel : Nat}
    (hfuel : members.length < fuel) (first : Bool) (rest : List Char) (mark : Mark) :
    ∃ mark', readFieldsByName fields fuel first s
        ⟨writeBehind first members ++ '\x7d' :: rest, mark⟩ =
      .ok (s', ⟨'\x7d' :: rest, mark'⟩) := by
  induction h generalizing fuel first mark with
  | nil s =>
    obtain ⟨fuel, rfl⟩ := Nat.exists_eq_succ_of_ne_zero (Nat.ne_of_gt hfuel)
    refine ⟨mark, ?_⟩
    simp only [writeBehind, or_true, if_true, writeMembers, List.nil_append, readFieldsByName,
      moreMembers_closing]
  | @cons s s' s'' key value members f hfind hunset hread _ ih =>
    obtain ⟨fuel, rfl⟩ := Nat.exists_eq_succ_of_ne_zero (Nat.ne_of_gt (Nat.zero_lt_of_lt hfuel))
    obtain ⟨mark₁, hmore⟩ := moreMembers_behind first key value members ('\x7d' :: rest) mark
    obtain ⟨mark₂, hkey⟩ := reads_text key
      (':' :: (value.write ++ writeBehind false members) ++ '\x7d' :: rest) mark₁
    obtain ⟨mark₃, hvalue⟩ := hread (writeBehind false members ++ '\x7d' :: rest)
      (Cursor.markAfter mark₂ ':')
    obtain ⟨mark₄, hbehind⟩ := ih (Nat.lt_of_succ_lt_succ hfuel) false mark₃
    have hcolon : ∀ cs, readColon ⟨':' :: cs, mark₂⟩ = .ok ⟨cs, Cursor.markAfter mark₂ ':'⟩ :=
      fun _ => rfl
    refine ⟨mark₄, ?_⟩
    rw [readFieldsByName, hmore]
    dsimp only at hkey ⊢
    rw [writeMembers_cons, List.append_assoc, hkey]
    dsimp only
    rw [hfind]
    dsimp only
    rw [hunset, List.cons_append, hcolon, List.append_assoc]
    simp only [Bool.false_eq_true, if_false, Except.bind, hvalue, hbehind]

/-- A record is read from an object whose members fill its fields. -/
theorem reads_record {shape : Shape σ α} {start s : σ} {members : List (String × Tree)} {x : α}
    (h : Fills shape.fields start members s) (hx : shape.finish s = .ok x) :
    Reads (readRecord shape start) (Tree.object members).write x := by
  intro rest mark
  have htext : (Tree.object members).write ++ rest =
      '\x7b' :: (writeBehind true members ++ '\x7d' :: rest) := by
    simp [Tree.write, writeBehind]
  have hfuel : members.length < (writeBehind true members ++ '\x7d' :: rest).length + 1 + 1 := by
    have hlength := length_le_length_writeMembers members
    rw [writeBehind, if_pos (.inl rfl), List.length_append]
    omega
  obtain ⟨mark', hfields⟩ :=
    readFieldsByName_of_fills h hfuel true rest (Cursor.markAfter mark '\x7b')
  refine ⟨Cursor.markAfter mark' '\x7d', ?_⟩
  rw [htext, readRecord, skipBlanks_cons rfl]
  dsimp only [Cursor.peek?_cons, Cursor.advance_cons]
  rw [List.length_cons, hfields]
  simp only [finished, hx]
  rfl

end Gatehouse.Json
