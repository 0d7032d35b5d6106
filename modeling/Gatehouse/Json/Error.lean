import Gatehouse.Text.Quoted
import Gatehouse.Url.Host

/-!
# What is wrong with a document

A JSON document is refused with a fault and the place where it was noticed. Faults are those of
the grammar, and those of a document that is well-formed but has not the wanted shape.

## Main definitions

* `Json.Found`, `Json.Fault` : what was met, and what is wrong with it, with the wording.
* `Json.Mark` : a place in a document, by line and column.
* `Json.Error` : a fault at a place.
-/

namespace Gatehouse.Json

/-- A place in a document: the line, from 1 on, and the number of bytes of that line in front
of it. -/
structure Mark where
  line : Nat
  column : Nat
  deriving DecidableEq, Repr

/-- A word between grave accents. -/
def ticked (word : String) : String := "`" ++ word ++ "`"

/-- A value that was met where another was wanted. -/
inductive Found where
  | null
  | bool (value : Bool)
  | integer (text : String)
  | float (text : String)
  | string (value : String)
  | sequence
  | map
  deriving DecidableEq, Repr

/-- The wording for a value that was met. -/
def Found.text : Found → String
  | .null => "null"
  | .bool true => "boolean " ++ ticked "true"
  | .bool false => "boolean " ++ ticked "false"
  | .integer text => "integer " ++ ticked text
  | .float text => "floating point " ++ ticked text
  | .string value => "string " ++ Quoted.text value
  | .sequence => "sequence"
  | .map => "map"

/-- What can be wrong with a document. -/
inductive Fault where
  | eofInList
  | eofInObject
  | eofInString
  | eofInValue
  | expectedColon
  | expectedListCommaOrEnd
  | expectedObjectCommaOrEnd
  | expectedIdent
  | expectedValue
  | invalidEscape
  | invalidNumber
  | numberOutOfRange
  | controlInString
  | keyMustBeString
  | loneSurrogate
  | unexpectedEndOfHexEscape
  | trailingComma
  | trailingCharacters
  /-- A value of another type than the wanted one. -/
  | invalidType (found : Found) (wanted : String)
  /-- An array with too few elements. -/
  | invalidLength (length : Nat) (wanted : String)
  | missingField (name : String)
  | duplicateField (name : String)
  /-- A text that is no URL where one is wanted. -/
  | invalidUrl (cause : UrlError) (text : String)
  deriving DecidableEq, Repr

/-- The wording of a fault. -/
def Fault.text : Fault → String
  | .eofInList => "EOF while parsing a list"
  | .eofInObject => "EOF while parsing an object"
  | .eofInString => "EOF while parsing a string"
  | .eofInValue => "EOF while parsing a value"
  | .expectedColon => "expected `:`"
  | .expectedListCommaOrEnd => "expected `,` or `]`"
  | .expectedObjectCommaOrEnd => "expected `,` or `\x7d`"
  | .expectedIdent => "expected ident"
  | .expectedValue => "expected value"
  | .invalidEscape => "invalid escape"
  | .invalidNumber => "invalid number"
  | .numberOutOfRange => "number out of range"
  | .controlInString =>
    "control character (\\u0000-\\u001F) found while parsing a string"
  | .keyMustBeString => "key must be a string"
  | .loneSurrogate => "lone leading surrogate in hex escape"
  | .unexpectedEndOfHexEscape => "unexpected end of hex escape"
  | .trailingComma => "trailing comma"
  | .trailingCharacters => "trailing characters"
  | .invalidType found wanted => "invalid type: " ++ found.text ++ ", expected " ++ wanted
  | .invalidLength length wanted =>
    "invalid length " ++ toString length ++ ", expected " ++ wanted
  | .missingField name => "missing field " ++ ticked name
  | .duplicateField name => "duplicate field " ++ ticked name
  | .invalidUrl cause text => cause.message ++ ": " ++ Quoted.text text

/-- A fault and the place where it was noticed. -/
structure Error where
  fault : Fault
  mark : Mark
  deriving DecidableEq, Repr

/-- The wording of an error, with its place. -/
def Error.message (e : Error) : String :=
  e.fault.text ++ " at line " ++ toString e.mark.line ++ " column " ++ toString e.mark.column

end Gatehouse.Json
