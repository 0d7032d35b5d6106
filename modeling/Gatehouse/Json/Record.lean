import Gatehouse.Json.Value

/-!
# Records, lists and dictionaries of a document

A record is written as an object, whose unknown members are skipped, or as an array of its fields
in order, of which trailing optional ones may be missing. An error within a record that has no
place of its own is placed where the record ends, as far as its end can be read.

## Main definitions

* `Json.readString`, `Json.readList`, `Json.readMembers` : strings, arrays and objects.
* `Json.Field`, `Json.Shape` : the fields of a record and the record made of them.
* `Json.readRecord` : a record of a given shape.
* `Json.document` : the value of a whole document.
-/

namespace Gatehouse.Json

/-- Reads a string, or refuses what stands in its place. -/
def readWantedString (wanted : String) : Reader String := fun k =>
  let k := k.skipBlanks
  match k.peek? with
  | none => k.failNext .eofInValue
  | some '"' => readText k.advance
  | some _ => refuseValue wanted k

/-- Reads a string. -/
def readString : Reader String := readWantedString "a string"

/-- Whether an array has one more element, and the cursor in front of it or of the closing
bracket. -/
def moreElements (first : Bool) : Reader Bool := fun k =>
  let k := k.skipBlanks
  match k.peek? with
  | none => k.failNext .eofInList
  | some c =>
    if c = ']' then .ok (false, k)
    else if first then .ok (true, k)
    else if c = ',' then
      let k := k.advance.skipBlanks
      match k.peek? with
      | some ']' => k.failNext .trailingComma
      | some _ => .ok (true, k)
      | none => k.failNext .eofInValue
    else k.failNext .expectedListCommaOrEnd

/-- Whether an object has one more member, and the cursor in front of its key or of the closing
brace. -/
def moreMembers (first : Bool) : Reader Bool := fun k =>
  let k := k.skipBlanks
  match k.peek? with
  | none => k.failNext .eofInObject
  | some c =>
    if c = '\x7d' then .ok (false, k)
    else if first then
      if c = '"' then .ok (true, k) else k.failNext .keyMustBeString
    else if c = ',' then
      let k := k.advance.skipBlanks
      match k.peek? with
      | some '"' => .ok (true, k)
      | some '\x7d' => k.failNext .trailingComma
      | some _ => k.failNext .keyMustBeString
      | none => k.failNext .eofInValue
    else k.failNext .expectedObjectCommaOrEnd

/-- Where an array ends: the cursor reached, and the error if it does not end there. -/
def listEnd (k : Cursor) : Cursor × Option Error :=
  let k := k.skipBlanks
  match k.peek? with
  | some ']' => (k.advance, none)
  | some ',' =>
    let k := k.advance.skipBlanks
    match k.peek? with
    | some ']' => (k, some ⟨.trailingComma, k.peekMark⟩)
    | _ => (k, some ⟨.trailingCharacters, k.peekMark⟩)
  | some _ => (k, some ⟨.trailingCharacters, k.peekMark⟩)
  | none => (k, some ⟨.eofInList, k.peekMark⟩)

/-- Where an object ends: the cursor reached, and the error if it does not end there. -/
def objectEnd (k : Cursor) : Cursor × Option Error :=
  let k := k.skipBlanks
  match k.peek? with
  | some '\x7d' => (k.advance, none)
  | some ',' => (k, some ⟨.trailingComma, k.peekMark⟩)
  | some _ => (k, some ⟨.trailingCharacters, k.peekMark⟩)
  | none => (k, some ⟨.eofInObject, k.peekMark⟩)

/-- Reads the colon behind a key. -/
def readColon (k : Cursor) : Except Error Cursor :=
  let k := k.skipBlanks
  match k.peek? with
  | some ':' => .ok k.advance
  | some _ => k.failNext .expectedColon
  | none => k.failNext .eofInObject

/-- The value with the cursor behind the closing bracket or brace. -/
def closed {α : Type} (value : α) : Cursor × Option Error → Except Error (α × Cursor)
  | (k, none) => .ok (value, k)
  | (_, some e) => .error e

/-! ### Arrays and objects -/

/-- Reads the elements of an array up to its closing bracket. -/
def readElements {α : Type} (element : Reader α) : (fuel : Nat) → (first : Bool) → Reader (List α)
  | 0, _, k => k.fail .eofInList
  | fuel + 1, first, k =>
    match moreElements first k with
    | .error e => .error e
    | .ok (false, k) => .ok ([], k)
    | .ok (true, k) =>
      match element k with
      | .error e => .error e
      | .ok (x, k) => (readElements element fuel false k).map fun (xs, k) => (x :: xs, k)

/-- Reads an array. -/
def readList {α : Type} (element : Reader α) : Reader (List α) := fun k =>
  let k := k.skipBlanks
  match k.peek? with
  | none => k.failNext .eofInValue
  | some '[' =>
    match readElements element (k.rest.length + 1) true k.advance with
    | .error e => .error e
    | .ok (xs, k) => closed xs (listEnd k)
  | some _ => refuseValue "a sequence" k

/-- Reads the key of a member, and the colon behind it. -/
def readKey : Reader String := fun k =>
  match readText k.advance with
  | .error e => .error e
  | .ok (key, k) => (readColon k).map fun k => (key, k)

/-- Reads the members of an object up to its closing brace. -/
def readEntries {α : Type} (value : Reader α) :
    (fuel : Nat) → (first : Bool) → Reader (List (String × α))
  | 0, _, k => k.fail .eofInObject
  | fuel + 1, first, k =>
    match moreMembers first k with
    | .error e => .error e
    | .ok (false, k) => .ok ([], k)
    | .ok (true, k) =>
      match readKey k with
      | .error e => .error e
      | .ok (key, k) =>
        match value k with
        | .error e => .error e
        | .ok (x, k) =>
          (readEntries value fuel false k).map fun (xs, k) => ((key, x) :: xs, k)

/-- Reads an object of any keys: its members in order. -/
def readMembers {α : Type} (value : Reader α) : Reader (List (String × α)) := fun k =>
  let k := k.skipBlanks
  match k.peek? with
  | none => k.failNext .eofInValue
  | some '\x7b' =>
    match readEntries value (k.rest.length + 1) true k.advance with
    | .error e => .error e
    | .ok (xs, k) => closed xs (objectEnd k)
  | some _ => refuseValue "a map" k

/-! ### Records -/

/-- A field of a record whose fields are collected in `σ`. -/
structure Field (σ : Type) where
  name : String
  /-- Whether an array may end in front of the field. -/
  optional : Bool
  /-- Whether the field has been read. -/
  isSet : σ → Bool
  /-- Reads the value of the field. -/
  read : σ → Reader σ

/-- The shape of a record: its name, its fields in order, and the record made of them, or the
name of the first field that is missing. -/
structure Shape (σ α : Type) where
  name : String
  fields : List (Field σ)
  finish : σ → Except String α

/-- A fault that is placed once the end of its record has been looked for, or an error that has
its place. -/
inductive RecordError where
  | unplaced (fault : Fault) (cursor : Cursor)
  | placed (error : Error)

/-- What is wanted where an array is too short. -/
def lengthWanted {σ α : Type} (shape : Shape σ α) : String :=
  let n := shape.fields.length
  "struct " ++ shape.name ++ " with " ++ toString n ++
    if n = 1 then " element" else " elements"

/-- Reads the fields of a record that is written as an array. -/
def readFieldsInOrder {σ : Type} (wanted : String) :
    List (Field σ) → (index : Nat) → σ → Cursor → Except RecordError (σ × Cursor)
  | [], _, s, k => .ok (s, k)
  | f :: fields, index, s, k =>
    match moreElements (index = 0) k with
    | .error e => .error (.placed e)
    | .ok (false, k) =>
      if f.optional then readFieldsInOrder wanted fields (index + 1) s k
      else .error (.unplaced (.invalidLength index wanted) k)
    | .ok (true, k) =>
      match f.read s k with
      | .error e => .error (.placed e)
      | .ok (s, k) => readFieldsInOrder wanted fields (index + 1) s k

/-- Reads the members of a record that is written as an object. -/
def readFieldsByName {σ : Type} (fields : List (Field σ)) :
    (fuel : Nat) → (first : Bool) → σ → Cursor → Except RecordError (σ × Cursor)
  | 0, _, _, k => .error (.placed ⟨.eofInObject, k.mark⟩)
  | fuel + 1, first, s, k =>
    match moreMembers first k with
    | .error e => .error (.placed e)
    | .ok (false, k) => .ok (s, k)
    | .ok (true, k) =>
      match readText k.advance with
      | .error e => .error (.placed e)
      | .ok (key, k) =>
        match fields.find? (·.name == key) with
        | none =>
          match (readColon k).bind skipValue with
          | .error e => .error (.placed e)
          | .ok k => readFieldsByName fields fuel false s k
        | some f =>
          if f.isSet s then .error (.unplaced (.duplicateField key) k)
          else
            match (readColon k).bind (f.read s) with
            | .error e => .error (.placed e)
            | .ok (s, k) => readFieldsByName fields fuel false s k

/-- The record made of the fields that were read, or the field that is missing. -/
def finished {σ α : Type} (shape : Shape σ α) :
    Except RecordError (σ × Cursor) → Except RecordError (α × Cursor)
  | .error e => .error e
  | .ok (s, k) =>
    match shape.finish s with
    | .ok x => .ok (x, k)
    | .error name => .error (.unplaced (.missingField name) k)

/-- The record with the cursor behind its end; a fault without a place gets that of the end. -/
def placedAt {α : Type} (ending : Cursor → Cursor × Option Error) :
    Except RecordError (α × Cursor) → Except Error (α × Cursor)
  | .error (.placed e) => .error e
  | .error (.unplaced fault k) => .error ⟨fault, (ending k).1.mark⟩
  | .ok (x, k) => closed x (ending k)

/-- Reads a record; `start` holds no field yet. -/
def readRecord {σ α : Type} (shape : Shape σ α) (start : σ) : Reader α := fun k =>
  let k := k.skipBlanks
  match k.peek? with
  | none => k.failNext .eofInValue
  | some '[' =>
    placedAt listEnd (finished shape
      (readFieldsInOrder (lengthWanted shape) shape.fields 0 start k.advance))
  | some '\x7b' =>
    placedAt objectEnd (finished shape
      (readFieldsByName shape.fields (k.rest.length + 1) true start k.advance))
  | some _ => refuseValue ("struct " ++ shape.name) k

/-- The value of a whole document. -/
def document {α : Type} (read : Reader α) (text : String) : Except Error α :=
  match read (Cursor.start text) with
  | .error e => .error e
  | .ok (x, k) =>
    let k := k.skipBlanks
    match k.peek? with
    | none => .ok x
    | some _ => k.failNext .trailingCharacters

end Gatehouse.Json
