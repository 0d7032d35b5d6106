import Gatehouse.Text.Utf8
import Gatehouse.Text.Split

/-!
# Header fields

A message carries header fields in order. Names are tokens in lower case and values are bytes;
several fields may have one name, and their order counts. What the library asks of a list of
fields is which values a name has.

## Main definitions

* `Header`, `Headers` : a field, and the fields of a message.
* `HeaderName.parse?`, `HeaderValue.isValid` : which names and values may occur.
* `Headers.values` : the values of a name, in order; the view that the operations are stated by.
* `Headers.append`, `Headers.remove`, `Headers.insert` : the operations.
-/

namespace Gatehouse

/-! ### Names and values -/

namespace HeaderName

/-- Whether a character may stand in a token. -/
def isTokenChar (c : Char) : Bool :=
  c.isAlphanum || "!#$%&'*+-.^_`|~".toList.contains c

/-- Whether a text is a token: at least one character, all of them token characters. -/
def isToken (cs : List Char) : Bool := cs != [] && cs.all isTokenChar

/-- The length up to which a name is accepted. -/
def maxLength : Nat := 65535

/-- The name that a text denotes, in lower case. -/
def parse? (cs : List Char) : Option String :=
  if isToken cs && cs.length ≤ maxLength then some (String.ofList (Text.toLower cs)) else none

end HeaderName

namespace HeaderValue

/-- Whether a byte may stand in a value: no control but the tab. -/
def isValidByte (b : UInt8) : Bool := (0x20 ≤ b && b != 0x7F) || b == 0x09

/-- Whether bytes are a header value. -/
def isValid (value : Bytes) : Bool := value.all isValidByte

/-- Whether a byte is visible ASCII, a space or a tab. -/
def isPlainByte (b : UInt8) : Bool := (0x20 ≤ b && b < 0x7F) || b == 0x09

/-- The text of a value, if all its bytes are visible ASCII, spaces and tabs. -/
def text? (value : Bytes) : Option (List Char) :=
  if value.all isPlainByte then some (value.map fun b => Char.ofNat b.toNat) else none

/-- Whether a character is a space or a tab. -/
def isBlank (c : Char) : Bool := c == ' ' || c == '\t'

/-- The parts of a list value, freed of blanks around them. -/
def listItems (cs : List Char) : List (List Char) :=
  (Text.splitOn ',' cs).map (Text.trim isBlank)

/-- The value with the given text, if that is a value. -/
def ofText? (s : String) : Option Bytes :=
  if isValid (Bytes.ofText s) then some (Bytes.ofText s) else none

end HeaderValue

/-! ### Fields -/

/-- A header field. -/
structure Header where
  /-- The name, in lower case. -/
  name : String
  value : Bytes
  deriving DecidableEq, Repr

/-- The fields of a message, in order. -/
structure Headers where
  fields : List Header
  deriving DecidableEq, Repr

namespace Headers

/-- No field. -/
def empty : Headers := ⟨[]⟩

/-- The values of a name, in order. -/
def values (h : Headers) (name : String) : List Bytes :=
  (h.fields.filter (·.name == name)).map Header.value

/-- The first value of a name. -/
def first? (h : Headers) (name : String) : Option Bytes := (h.values name).head?

/-- Whether there is a field of the name. -/
def contains (h : Headers) (name : String) : Bool := h.fields.any (·.name == name)

/-- Adds a field behind all others. -/
def append (h : Headers) (name : String) (value : Bytes) : Headers :=
  ⟨h.fields ++ [⟨name, value⟩]⟩

/-- The fields whose names are accepted. -/
def filter (h : Headers) (accepted : String → Bool) : Headers :=
  ⟨h.fields.filter fun f => accepted f.name⟩

/-- Removes all fields of a name. -/
def remove (h : Headers) (name : String) : Headers := h.filter (· != name)

/-- Makes `value` the only value of a name. -/
def insert (h : Headers) (name : String) (value : Bytes) : Headers :=
  (h.remove name).append name value

@[simp] theorem values_empty (name : String) : empty.values name = [] := rfl

theorem contains_iff {h : Headers} {name : String} :
    h.contains name = true ↔ h.values name ≠ [] := by
  rw [contains, values, ne_eq, List.map_eq_nil_iff, List.filter_eq_nil_iff, List.any_eq_true]
  simp

theorem values_append (h : Headers) (name name' : String) (value : Bytes) :
    (h.append name value).values name' =
      h.values name' ++ if name = name' then [value] else [] := by
  by_cases e : name = name' <;> simp [append, values, List.filter_append, e]

theorem values_filter (h : Headers) (accepted : String → Bool) (name : String) :
    (h.filter accepted).values name = if accepted name then h.values name else [] := by
  have hf : (h.filter accepted).fields = h.fields.filter fun f => accepted f.name := rfl
  unfold values
  rw [hf]
  split
  · rename_i ha
    congr 1
    rw [List.filter_filter]
    refine List.filter_congr fun f _ => ?_
    by_cases e : f.name = name <;> simp [e, ha]
  · rename_i ha
    simp only [List.filter_filter, List.map_eq_nil_iff, List.filter_eq_nil_iff]
    intro f _
    by_cases e : f.name = name <;> simp [e, ha]

theorem values_remove (h : Headers) (name name' : String) :
    (h.remove name).values name' = if name' = name then [] else h.values name' := by
  rw [remove, values_filter]
  by_cases e : name' = name <;> simp [e]

theorem values_foldl_remove (names : List String) (h : Headers) (name : String) :
    (names.foldl remove h).values name = if name ∈ names then [] else h.values name := by
  induction names generalizing h with
  | nil => simp
  | cons first names ih =>
    rw [List.foldl_cons, ih, values_remove]
    by_cases hname : name = first <;> simp [hname]

theorem values_insert (h : Headers) (name name' : String) (value : Bytes) :
    (h.insert name value).values name' = if name' = name then [value] else h.values name' := by
  rw [insert, values_append, values_remove]
  by_cases e : name' = name
  · simp [e]
  · simp [e, Ne.symm e]

end Headers

end Gatehouse
