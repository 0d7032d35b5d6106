import Gatehouse.Json.Text
import Gatehouse.Json.Number

/-!
# Values that are met or skipped

Where a value of another type stands than the one that is wanted, it is read as far as needed to
say what was met. A value that nobody asks for is skipped, and then only the grammar counts.

## Main definitions

* `Json.readFound` : what the value at a cursor is met as.
* `Json.skipValue` : the cursor behind a value.
-/

namespace Gatehouse.Json

/-- The value at a cursor that stands in front of a character, as it is met in the place of
another one. An array or object is not entered. -/
def readFound : Reader Found := fun k =>
  match k.next? with
  | none => k.failNext .expectedValue
  | some (c, after) =>
    if c = 'n' then (after.word ['u', 'l', 'l']).map fun k => (.null, k)
    else if c = 't' then (after.word ['r', 'u', 'e']).map fun k => (.bool true, k)
    else if c = 'f' then (after.word ['a', 'l', 's', 'e']).map fun k => (.bool false, k)
    else if c = '-' then readNumber true after
    else if isDigit c then readNumber false k
    else if c = '"' then (readText after).map fun (s, k) => (.string s, k)
    else if c = '[' then .ok (.sequence, k)
    else if c = '\x7b' then .ok (.map, k)
    else k.failNext .expectedValue

/-- Refuses the value at a cursor, of another type than the wanted one. -/
def refuseValue {α : Type} (wanted : String) (k : Cursor) : Except Error α :=
  match readFound k with
  | .error e => .error e
  | .ok (found, k) => k.fail (.invalidType found wanted)

mutual

/-- Skips a value. -/
def skipWithin : (fuel : Nat) → Cursor → Except Error Cursor
  | 0, k => k.fail .eofInValue
  | fuel + 1, k =>
    let k := k.skipBlanks
    match k.next? with
    | none => k.failNext .eofInValue
    | some (c, after) =>
      if c = 'n' then after.word ['u', 'l', 'l']
      else if c = 't' then after.word ['r', 'u', 'e']
      else if c = 'f' then after.word ['a', 'l', 's', 'e']
      else if c = '-' then skipNumber after
      else if isDigit c then skipNumber k
      else if c = '"' then skipText after
      else if c = '[' then
        let k := after.skipBlanks
        match k.peek? with
        | none => k.failNext .eofInList
        | some ']' => .ok k.advance
        | some _ => skipElements fuel k
      else if c = '\x7b' then
        let k := after.skipBlanks
        match k.peek? with
        | none => k.failNext .eofInObject
        | some '\x7d' => .ok k.advance
        | some _ => skipMembers fuel k
      else k.failNext .expectedValue

/-- Skips the elements of an array that has at least one more, and its closing bracket. -/
def skipElements : (fuel : Nat) → Cursor → Except Error Cursor
  | 0, k => k.fail .eofInValue
  | fuel + 1, k =>
    match skipWithin fuel k with
    | .error e => .error e
    | .ok k =>
      let k := k.skipBlanks
      match k.peek? with
      | none => k.failNext .eofInList
      | some ',' => skipElements fuel k.advance
      | some ']' => .ok k.advance
      | some _ => k.failNext .expectedListCommaOrEnd

/-- Skips the members of an object that has at least one more, and its closing brace. -/
def skipMembers : (fuel : Nat) → Cursor → Except Error Cursor
  | 0, k => k.fail .eofInValue
  | fuel + 1, k =>
    let k := k.skipBlanks
    match k.peek? with
    | none => k.failNext .eofInObject
    | some '"' =>
      match skipText k.advance with
      | .error e => .error e
      | .ok k =>
        let k := k.skipBlanks
        match k.peek? with
        | none => k.failNext .eofInObject
        | some ':' =>
          match skipWithin fuel k.advance with
          | .error e => .error e
          | .ok k =>
            let k := k.skipBlanks
            match k.peek? with
            | none => k.failNext .eofInObject
            | some ',' => skipMembers fuel k.advance
            | some '\x7d' => .ok k.advance
            | some _ => k.failNext .expectedObjectCommaOrEnd
        | some _ => k.failNext .expectedColon
    | some _ => k.failNext .keyMustBeString

end

/-- The cursor behind the value at a cursor. -/
def skipValue (k : Cursor) : Except Error Cursor := skipWithin (2 * k.rest.length + 2) k

end Gatehouse.Json
