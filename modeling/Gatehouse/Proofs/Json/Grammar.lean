import Gatehouse.Json.Text
import Gatehouse.Json.Number

/-!
# The grammar of documents

A document stands for a value, in many ways: with blanks between its signs, and with characters of
a string spelled as they are or by escapes. The grammar is stated here on its own, as a relation
between values and texts, so that what the readers do can be stated for every text of a value.

An escape by code unit that is half of a pair keeps the grammar although it stands for no character.
A string with such an escape stands for no text.

## Main definitions

* `Json.Value`: what a document stands for.
* `Json.Piece`, `Json.textOf`: the pieces of a string, and the text that they stand for.
* `Json.IsNumber`: the numbers.
* `Json.IsSpelled`: a value is spelled by a text without blanks around it.
* `Json.Value.IsSpelledIn`: a value is what a document stands for.
-/

namespace Gatehouse.Json

/-- A value that a document stands for. Members keep their order, and names may come up again. -/
inductive Value where
  | null
  | bool (value : Bool)
  /-- A number, as it is spelled. -/
  | number (token : List Char)
  /-- A string, or none if it stands for no text. -/
  | string (text : Option String)
  | array (elements : List Value)
  | object (members : List (Option String × Value))

/-! ### Strings -/

/-- A piece of a string: a character as it is, or an escape by a letter or by the four digits of a
code unit. -/
inductive Piece where
  | plain (c : Char)
  | short (letter : Char)
  | unit (a b c d : Char)

/-- The letters of escapes, and what they stand for. -/
def shortEscapes : List (Char × Char) :=
  [('"', '"'), ('\\', '\\'), ('/', '/'), ('b', '\x08'), ('f', '\x0c'), ('n', '\n'), ('r', '\r'),
    ('t', '\t')]

namespace Piece

def IsAllowed : Piece → Prop
  | plain c => c ≠ '"' ∧ c ≠ '\\' ∧ 0x20 ≤ c.toNat
  | short letter => ∃ c, (letter, c) ∈ shortEscapes
  | unit a b c d => ∀ x ∈ [a, b, c, d], (Numeral.hexDigit? x).isSome = true

instance : DecidablePred IsAllowed
  | plain c => inferInstanceAs (Decidable (c ≠ '"' ∧ c ≠ '\\' ∧ 0x20 ≤ c.toNat))
  | short letter =>
    decidable_of_iff (letter ∈ shortEscapes.map (·.1)) (by simp [IsAllowed])
  | unit _ _ _ _ => List.decidableBAll _ _

def chars : Piece → List Char
  | plain c => [c]
  | short letter => ['\\', letter]
  | unit a b c d => ['\\', 'u', a, b, c, d]

end Piece

/-- The code unit of four digits. -/
def unitOf (a b c d : Char) : Nat :=
  let value (x : Char) := (Numeral.hexDigit? x).getD 0
  value a * 4096 + value b * 256 + value c * 16 + value d

/-- The text that pieces stand for. Code units beyond the first plane come in pairs. -/
def textOf : List Piece → Option (List Char)
  | [] => some []
  | .plain c :: rest => (textOf rest).map (c :: ·)
  | .short letter :: rest =>
    (shortEscapes.lookup letter).bind fun c => (textOf rest).map (c :: ·)
  | .unit a b c d :: rest =>
    if isTrail (unitOf a b c d) then none
    else if isLead (unitOf a b c d) then
      match rest with
      | .unit a' b' c' d' :: rest =>
        if isTrail (unitOf a' b' c' d') then
          (textOf rest).map
            (Char.ofNat (0x10000 + (unitOf a b c d - 0xD800) * 1024 +
              (unitOf a' b' c' d' - 0xDC00)) :: ·)
        else none
      | _ => none
    else (textOf rest).map (Char.ofNat (unitOf a b c d) :: ·)

/-- The string that pieces stand for. -/
def stringOf (pieces : List Piece) : Option String := (textOf pieces).map String.ofList

/-- Pieces between quotes. -/
def quoted (pieces : List Piece) : List Char := '"' :: (pieces.flatMap Piece.chars ++ ['"'])

/-! ### Numbers -/

/-- One digit or more. -/
def AreDigits (ds : List Char) : Prop := ds ≠ [] ∧ ∀ d ∈ ds, isDigit d = true

/-- The whole part of a number, which starts with a zero only if it is zero. -/
def IsWhole (ds : List Char) : Prop := ds = ['0'] ∨ AreDigits ds ∧ ds.head? ≠ some '0'

/-- The digits behind the point, if there is one. -/
def IsFraction (cs : List Char) : Prop := cs = [] ∨ ∃ ds, AreDigits ds ∧ cs = '.' :: ds

/-- The exponent, if there is one. -/
def IsScale (cs : List Char) : Prop :=
  cs = [] ∨ ∃ letter ∈ ['e', 'E'], ∃ sign ∈ [[], ['+'], ['-']], ∃ ds, AreDigits ds ∧
    cs = letter :: (sign ++ ds)

inductive IsNumber : List Char → Prop
  | mk {sign whole fraction scale : List Char} (hsign : sign = [] ∨ sign = ['-'])
      (hwhole : IsWhole whole) (hfraction : IsFraction fraction) (hscale : IsScale scale) :
      IsNumber (sign ++ (whole ++ (fraction ++ scale)))

/-! ### Values -/

def AreBlank (cs : List Char) : Prop := ∀ c ∈ cs, c ∈ [' ', '\n', '\t', '\r']

/-- The text of a value, with the blanks around it. -/
structure Spaced where
  before : List Char
  core : List Char
  after : List Char

def Spaced.text (x : Spaced) : List Char := x.before ++ (x.core ++ x.after)

/-- The texts of a name and a value, with the blanks around them. -/
structure SpacedMember where
  before : List Char
  name : List Piece
  after : List Char
  value : Spaced

def SpacedMember.text (x : SpacedMember) : List Char :=
  x.before ++ (quoted x.name ++ (x.after ++ ':' :: x.value.text))

/-- Texts one behind the other, each with a comma in front of it. -/
def behindCommas (texts : List (List Char)) : List Char := texts.flatMap (',' :: ·)

/-- Texts one behind the other, with commas between them. -/
def betweenCommas : List (List Char) → List Char
  | [] => []
  | text :: texts => text ++ behindCommas texts

/-- A value is spelled by a text without blanks around it. -/
inductive IsSpelled : Value → List Char → Prop
  | null : IsSpelled .null ['n', 'u', 'l', 'l']
  | true : IsSpelled (.bool true) ['t', 'r', 'u', 'e']
  | false : IsSpelled (.bool false) ['f', 'a', 'l', 's', 'e']
  | number {token : List Char} (h : IsNumber token) : IsSpelled (.number token) token
  | string {pieces : List Piece} (h : ∀ p ∈ pieces, p.IsAllowed) :
      IsSpelled (.string (stringOf pieces)) (quoted pieces)
  | array {gap : List Char} {elements : List (Value × Spaced)} (hgap : AreBlank gap)
      (hblank : ∀ x ∈ elements, AreBlank x.2.before ∧ AreBlank x.2.after)
      (h : ∀ x ∈ elements, IsSpelled x.1 x.2.core) :
      IsSpelled (.array (elements.map (·.1)))
        ('[' :: (gap ++ (betweenCommas (elements.map (·.2.text)) ++ [']'])))
  | object {gap : List Char} {members : List (Value × SpacedMember)} (hgap : AreBlank gap)
      (hname : ∀ x ∈ members, ∀ p ∈ x.2.name, p.IsAllowed)
      (hblank : ∀ x ∈ members, AreBlank x.2.before ∧ AreBlank x.2.after ∧
        AreBlank x.2.value.before ∧ AreBlank x.2.value.after)
      (h : ∀ x ∈ members, IsSpelled x.1 x.2.value.core) :
      IsSpelled (.object (members.map fun x => (stringOf x.2.name, x.1)))
        ('\x7b' :: (gap ++ (betweenCommas (members.map (·.2.text)) ++ ['\x7d'])))

/-- A document stands for a value: the value is spelled in it, with blanks around it. -/
def Value.IsSpelledIn (v : Value) (text : String) : Prop :=
  ∃ x : Spaced, AreBlank x.before ∧ AreBlank x.after ∧ IsSpelled v x.core ∧
    text = String.ofList x.text

end Gatehouse.Json
