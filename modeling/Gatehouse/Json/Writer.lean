import Gatehouse.Text.Numeral

/-!
# Writing documents

A document is written without any blank. Members keep their order, and a string is written with
short escapes where there are any and with escapes by code unit for the other controls.

## Main definitions

* `Json.Tree` : the values that are written.
* `Json.Tree.compact` : the text of a value.
-/

namespace Gatehouse.Json

/-- A value that is written. -/
inductive Tree where
  | string (value : String)
  | array (elements : List Tree)
  | object (members : List (String × Tree))

/-- One character of a string. -/
def writeChar (c : Char) : List Char :=
  if c = '"' then ['\\', '"']
  else if c = '\\' then ['\\', '\\']
  else if c = '\x08' then ['\\', 'b']
  else if c = '\x0c' then ['\\', 'f']
  else if c = '\n' then ['\\', 'n']
  else if c = '\r' then ['\\', 'r']
  else if c = '\t' then ['\\', 't']
  else if c.toNat < 0x20 then
    ['\\', 'u', '0', '0', Nat.digitChar (c.toNat / 16), Nat.digitChar (c.toNat % 16)]
  else [c]

/-- A string between quotes. -/
def writeText (s : String) : List Char := '"' :: s.toList.flatMap writeChar ++ ['"']

mutual

/-- The characters of a value. -/
def Tree.write : Tree → List Char
  | .string s => writeText s
  | .array elements => '[' :: writeElements elements ++ [']']
  | .object members => '\x7b' :: writeMembers members ++ ['\x7d']

/-- The elements of an array with commas between them. -/
def writeElements : List Tree → List Char
  | [] => []
  | [x] => x.write
  | x :: y :: rest => x.write ++ ',' :: writeElements (y :: rest)

/-- The members of an object with commas between them. -/
def writeMembers : List (String × Tree) → List Char
  | [] => []
  | [(k, x)] => writeText k ++ ':' :: x.write
  | (k, x) :: y :: rest => writeText k ++ ':' :: (x.write ++ ',' :: writeMembers (y :: rest))

end

/-- The text of a value. -/
def Tree.compact (x : Tree) : String := String.ofList x.write

end Gatehouse.Json
