import Gatehouse.Json.Error

/-!
# Reading a document from the left

A cursor is what is left of a document, with the place that has been reached. Errors name either
that place or the one just behind the next character.

## Main definitions

* `Json.Cursor` : the rest of a document, and the place reached.
* `Json.Cursor.skipBlanks` : the cursor in front of the next character that counts.
* `Json.Reader` : a function that reads a value at a cursor.
-/

namespace Gatehouse.Json

/-- The place behind `n` bytes of a text that stands at a place. -/
def Mark.advance (m : Mark) : (n : Nat) → List Char → Mark
  | _, [] => m
  | 0, _ :: _ => m
  | n + 1, c :: rest =>
    if c = '\n' then Mark.advance ⟨m.line + 1, 0⟩ n rest
    else
      let size := (Utf8.encodeChar c).length
      if n + 1 < size then ⟨m.line, m.column + (n + 1)⟩
      else Mark.advance ⟨m.line, m.column + size⟩ (n + 1 - size) rest
termination_by _ cs => cs.length

/-- The rest of a document and the place reached. -/
structure Cursor where
  rest : List Char
  mark : Mark
  deriving DecidableEq, Repr

/-- A function that reads a value at a cursor. -/
abbrev Reader (α : Type) := Cursor → Except Error (α × Cursor)

namespace Cursor

/-- The start of a document. -/
def start (text : String) : Cursor := ⟨text.toList, ⟨1, 0⟩⟩

/-- The place behind one more character. -/
def markAfter (m : Mark) (c : Char) : Mark :=
  if c = '\n' then ⟨m.line + 1, 0⟩ else ⟨m.line, m.column + (Utf8.encodeChar c).length⟩

/-- The next character and the cursor behind it. -/
def next? (k : Cursor) : Option (Char × Cursor) :=
  match k.rest with
  | [] => none
  | c :: rest => some (c, ⟨rest, markAfter k.mark c⟩)

/-- The next character. -/
def peek? (k : Cursor) : Option Char := k.rest.head?

/-- The cursor behind the next character. -/
def advance (k : Cursor) : Cursor :=
  match k.next? with
  | some (_, k) => k
  | none => k

/-- The place just behind the next byte. -/
def peekMark (k : Cursor) : Mark :=
  match k.rest with
  | [] => k.mark
  | c :: _ => if c = '\n' then ⟨k.mark.line + 1, 0⟩ else ⟨k.mark.line, k.mark.column + 1⟩

/-- A fault at the place reached. -/
def fail {α : Type} (k : Cursor) (fault : Fault) : Except Error α := .error ⟨fault, k.mark⟩

/-- A fault just behind the next byte. -/
def failNext {α : Type} (k : Cursor) (fault : Fault) : Except Error α :=
  .error ⟨fault, k.peekMark⟩

/-- Whether a character is a blank of the grammar. -/
def isBlank (c : Char) : Bool := c == ' ' || c == '\n' || c == '\t' || c == '\r'

/-- The place behind the blanks of a text that stands at a place, and the text behind them. -/
def skipBlanksFrom (m : Mark) : List Char → Cursor
  | [] => ⟨[], m⟩
  | c :: rest => if isBlank c then skipBlanksFrom (markAfter m c) rest else ⟨c :: rest, m⟩

/-- The cursor in front of the next character that is no blank. -/
def skipBlanks (k : Cursor) : Cursor := skipBlanksFrom k.mark k.rest

/-- The characters in front of a cursor that satisfy `p`, and the cursor behind them. They are
digits, letters and the like, of one byte each. -/
def span (k : Cursor) (p : Char → Bool) : List Char × Cursor :=
  let taken := k.rest.takeWhile p
  (taken, ⟨k.rest.dropWhile p, ⟨k.mark.line, k.mark.column + taken.length⟩⟩)

/-- Reads the characters of a word whose first one has been read. -/
def word (k : Cursor) : List Char → Except Error Cursor
  | [] => .ok k
  | w :: ws =>
    match k.next? with
    | none => k.fail .eofInValue
    | some (c, k) => if c = w then word k ws else k.fail .expectedIdent

end Cursor

end Gatehouse.Json
