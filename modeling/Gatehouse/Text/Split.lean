/-!
# Cutting and joining text

Texts are read as lists of characters. This file cuts a list at a separator, at its first or
its last occurrence, and trims it; joining pieces with the separator is the inverse of cutting.

## Main definitions

* `Text.splitOn` : the pieces between the separators, never the empty list of pieces.
* `Text.cutFirst`, `Text.cutLast` : the two sides of the first and of the last separator.
* `Text.trim` : the text without the characters of a class at both ends.
* `Text.joinWith` : the pieces with a separator between neighbours.
-/

namespace Gatehouse.Text

/-- The pieces between the separators; a text without separator is its own only piece. -/
def splitOn (sep : Char) : List Char → List (List Char)
  | [] => [[]]
  | c :: rest =>
    if c = sep then [] :: splitOn sep rest
    else
      match splitOn sep rest with
      | [] => [[c]]
      | piece :: pieces => (c :: piece) :: pieces

/-- The text before the first separator and the text after it. -/
def cutFirst (sep : Char) : List Char → Option (List Char × List Char)
  | [] => none
  | c :: rest =>
    if c = sep then some ([], rest)
    else (cutFirst sep rest).map fun (before, after) => (c :: before, after)

/-- The text before the last separator and the text after it. -/
def cutLast (sep : Char) : List Char → Option (List Char × List Char)
  | [] => none
  | c :: rest =>
    match cutLast sep rest with
    | some (before, after) => some (c :: before, after)
    | none => if c = sep then some ([], rest) else none

/-- The text without the characters of the class `p` at its end. -/
def trimRight (p : Char → Bool) (cs : List Char) : List Char :=
  (cs.reverse.dropWhile p).reverse

/-- The text without the characters of the class `p` at both ends. -/
def trim (p : Char → Bool) (cs : List Char) : List Char :=
  trimRight p (cs.dropWhile p)

/-- The pieces in order, with `sep` between neighbours. -/
def joinWith (sep : List Char) : List (List Char) → List Char
  | [] => []
  | [piece] => piece
  | piece :: pieces => piece ++ sep ++ joinWith sep pieces

/-- The text with its ASCII letters in lower case. -/
def toLower (cs : List Char) : List Char := cs.map Char.toLower

/-- Removes a leading `pre`, if the text starts with it. -/
def dropPrefix? : (pre : List Char) → List Char → Option (List Char)
  | [], cs => some cs
  | _ :: _, [] => none
  | p :: pre, c :: cs => if p = c then dropPrefix? pre cs else none

/-- Whether two texts are equal up to the case of ASCII letters. -/
def eqIgnoreCase (x y : List Char) : Bool := toLower x == toLower y

/-- A text always has at least one piece. -/
theorem splitOn_ne_nil (sep : Char) (cs : List Char) : splitOn sep cs ≠ [] := by
  cases cs with
  | nil => simp [splitOn]
  | cons c rest =>
    simp only [splitOn]
    split
    · simp
    · split <;> simp

end Gatehouse.Text
