import Gatehouse.Text.Normalization
import Gatehouse.Url.Domain.DirectionTable

/-!
# Writing directions in domains

A domain with a character that is written from right to left must keep every label readable: a
label starts with a letter, goes on with characters of one direction, and ends in a letter or a
digit, marks aside. In joined scripts a character that keeps letters apart may stand between two
letters that would join.

## Main definitions

* `Direction`, `directionOf` : the class of a character.
* `isOneDirected` : whether a label is readable among right-to-left ones.
* `directionsAllowed` : whether all labels of a domain are.
* `joinersAllowed` : whether joiners stand where they may.
-/

namespace Gatehouse.Domain

open Normalization (Run rowsOf)

/-! ### Directions -/

/-- How characters are written. -/
inductive Direction where
  | left
  | right
  | arabicNumber
  | europeanNumber
  | neutral
  | nonspacing
  deriving DecidableEq, Repr

/-- The runs of a table. -/
def runsOf (table : List String) : List Run := (rowsOf table).map Run.ofField

/-- The runs of characters that are not written from left to right. -/
def directionRuns : List (List Run × Direction) :=
  [(runsOf rightRows, .right), (runsOf arabicNumberRows, .arabicNumber),
    (runsOf europeanNumberRows, .europeanNumber), (runsOf neutralRows, .neutral),
    (runsOf nonspacingRows, .nonspacing)]

/-- How a character is written. -/
def directionOf (c : Char) : Direction :=
  match directionRuns.find? fun (runs, _) => runs.any (·.has c) with
  | some (_, d) => d
  | none => .left

/-- Whether directions make up the inside of a label that starts from the left. -/
def isLeftInside (d : Direction) : Bool :=
  d == .left || d == .europeanNumber || d == .neutral || d == .nonspacing

/-- Whether directions make up the inside of a label that starts from the right. -/
def isRightInside (d : Direction) : Bool := d != .left

/-- Whether a label, given by the directions of its characters, is readable among labels that are
written from right to left. Numbers of both kinds do not go together. -/
def isOneDirected (ds : List Direction) : Bool :=
  match ds with
  | [] => true
  | first :: rest =>
    let behind := (rest.reverse.dropWhile (· == .nonspacing)).reverse
    if first = .left then
      behind.all isLeftInside && (behind.getLast?.all fun d => d == .left || d == .europeanNumber)
    else if first = .right then
      behind.all isRightInside && (behind.getLast?.all (· != .neutral)) &&
        !(behind.contains .arabicNumber && behind.contains .europeanNumber)
    else false

/-- Whether the labels of a domain are readable together. -/
def directionsAllowed (labels : List (List Char)) : Bool :=
  let directed := labels.map (·.map directionOf)
  let mixed := directed.any (·.any fun d => d == .right || d == .arabicNumber)
  !mixed || directed.all isOneDirected

/-! ### Joiners -/

/-- The character that keeps its neighbours apart. -/
def isSeparator (c : Char) : Bool := c.toNat == 0x200C

/-- The characters that join their neighbours or keep them apart. -/
def isJoiner (c : Char) : Bool := isSeparator c || c.toNat == 0x200D

/-- Whether letters join across a character. -/
def isTransparent (c : Char) : Bool :=
  directionOf c == .nonspacing ||
    [0xCBF, 0xCC6, 0x11A07, 0x11A08, 0x11C3F, 0x1E94B].contains c.toNat

/-- Whether a letter joins the one behind it. -/
def joinsBehind (c : Char) : Bool :=
  (runsOf dualJoiningRows).any (·.has c) || (runsOf leftJoiningRows).any (·.has c)

/-- Whether a letter joins the one in front of it. -/
def joinsInFront (c : Char) : Bool :=
  (runsOf dualJoiningRows).any (·.has c) || (runsOf rightJoiningRows).any (·.has c)

/-- Whether the first character that letters do not join across is of a kind. -/
def reaches (kind : Char → Bool) : List Char → Bool
  | [] => false
  | c :: rest => kind c || isTransparent c && reaches kind rest

/-- Whether a joiner may stand between the characters in front, the nearest first, and those
behind: behind one that suppresses a vowel, or, if it separates, between two that would join. -/
def joinerAllowed (front : List Char) (c : Char) (behind : List Char) : Bool :=
  front.head?.any (Normalization.combiningClass · == 9) ||
    isSeparator c && reaches joinsBehind front && reaches joinsInFront behind

/-- Whether every joiner of a text stands where it may, given the characters in front of the text,
the nearest first. -/
def joinersAllowed (front : List Char) : List Char → Bool
  | [] => true
  | c :: rest => (!isJoiner c || joinerAllowed front c rest) && joinersAllowed (c :: front) rest

end Gatehouse.Domain
