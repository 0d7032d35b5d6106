import Gatehouse.Http.Header
import Gatehouse.Text.Numeral

/-!
# Where bodies end

A body ends after the number of bytes that the `Content-Length` fields give, or after the last
chunk if `chunked` is the last of its transfer codings, or with the connection.

Bytes are read as far as they have come. If they are in order as far as they go but end too early,
they are cut short, and more of them may still come.

## Main definitions

* `ContentLength.parse?`, `ContentLength.agreed?` : the length in one value, and the length that
  all values agree on.
* `TransferEncoding.isChunked` : whether chunks are the last coding.
* `ReadFault` : why bytes cannot be read to the end.
* `readFields` : the fields at the front of some bytes.
* `Chunked.read` : the body in chunks at the front of some bytes.
-/

namespace Gatehouse

/-! ### Lengths -/

namespace ContentLength

/-- The length that a list of digits gives, if it is below 2^64. -/
def ofDigits? (cs : List Char) : Option Nat :=
  match cs with
  | [] => none
  | cs => (Numeral.readDigits (Nat.pow 2 64) 0 cs).toOption

/-- The length that one value gives. -/
def parse? (value : Bytes) : Option Nat := (HeaderValue.text? value).bind ofDigits?

/-- The length that a list gives whose members are equal. -/
def common? : List (Option Nat) → Option Nat
  | [] => none
  | first :: rest => if rest.all (· == first) then first else none

/-- The length that all members of all values agree on. -/
def agreed? (values : List Bytes) : Option Nat :=
  common? (values.flatMap fun value =>
    match HeaderValue.text? value with
    | none => [none]
    | some text => (HeaderValue.listItems text).map ofDigits?)

/-- The first length that is too large for a body. -/
def bound : Nat := Nat.pow 2 64 - 2

end ContentLength

namespace TransferEncoding

/-- Whether chunks are the last coding of a value. -/
def endsChunked (value : Bytes) : Bool :=
  match HeaderValue.text? value with
  | none => false
  | some text => (HeaderValue.listItems text).getLast?.any (Text.eqIgnoreCase "chunked".toList)

/-- Whether chunks are the last coding of all. -/
def isChunked (values : List Bytes) : Bool := values.getLast?.any endsChunked

end TransferEncoding

/-! ### Lines -/

/-- Why bytes cannot be read to the end. -/
inductive ReadFault (ε : Type) where
  /-- They end too early. -/
  | cutShort
  | malformed (fault : ε)
  deriving DecidableEq, Repr

/-- A byte that ends a line. -/
def lineFeed : UInt8 := 10

/-- A byte that may stand in front of the one that ends a line. -/
def carriageReturn : UInt8 := 13

/-- Whether a byte is a space or a tab. -/
def isBlankByte (b : UInt8) : Bool := b == 32 || b == 9

section Fault

variable {ε : Type} (fault : ε)

/-- What follows the end of a line: a line feed, or a carriage return with a line feed. -/
def readLineEnd : Bytes → Except (ReadFault ε) Bytes
  | [] => .error .cutShort
  | [13] => .error .cutShort
  | 10 :: rest => .ok rest
  | 13 :: 10 :: rest => .ok rest
  | _ => .error (.malformed fault)

/-- What follows a carriage return with a line feed. -/
def readStrictLineEnd : Bytes → Except (ReadFault ε) Bytes
  | [] => .error .cutShort
  | [13] => .error .cutShort
  | 13 :: 10 :: rest => .ok rest
  | _ => .error (.malformed fault)

/-- Reads the rest of a field behind its colon: the value, without blanks at its ends, and what
follows the line. -/
def readFieldValue (bs : Bytes) : Except (ReadFault ε) (Bytes × Bytes) :=
  let bs := bs.dropWhile isBlankByte
  let value := bs.takeWhile HeaderValue.isValidByte
  (readLineEnd fault (bs.dropWhile HeaderValue.isValidByte)).map fun rest =>
    ((value.reverse.dropWhile isBlankByte).reverse, rest)

/-- Whether a byte may stand in a token. -/
def isTokenByte (b : UInt8) : Bool := b < 128 && HeaderName.isTokenChar (Char.ofNat b.toNat)

/-- Reads a field: a name, a colon and a value. -/
def readField (bs : Bytes) : Except (ReadFault ε) (Header × Bytes) :=
  let name := bs.takeWhile isTokenByte
  match bs.dropWhile isTokenByte with
  | [] => .error .cutShort
  | 58 :: rest =>
    if name = [] then .error (.malformed fault)
    else (readFieldValue fault rest).map fun (value, rest) =>
      (⟨String.ofList (Text.toLower (name.map fun b => Char.ofNat b.toNat)), value⟩, rest)
  | _ => .error (.malformed fault)

/-- Reads at most `room` fields and the empty line behind them. -/
def readFields (tooMany : ε) : (room : Nat) → Bytes → Except (ReadFault ε) (Headers × Bytes)
  | room, bs =>
    match readLineEnd fault bs with
    | .ok rest => .ok (Headers.empty, rest)
    | .error .cutShort => .error .cutShort
    | .error (.malformed _) =>
      match room with
      | 0 => .error (.malformed tooMany)
      | room + 1 =>
        match readField fault bs with
        | .error e => .error e
        | .ok (field, rest) =>
          (readFields tooMany room rest).map fun (h, rest) => (⟨field :: h.fields⟩, rest)

end Fault

/-- The number of fields that a message may have. -/
def maxFields : Nat := 100

/-! ### Chunks -/

namespace Chunked

/-- The value of a hexadecimal digit. -/
def digit? (b : UInt8) : Option Nat :=
  if b < 128 then Numeral.hexDigit? (Char.ofNat b.toNat) else none

/-- The number that hexadecimal digits denote. -/
def valueOf (digits : Bytes) : Nat :=
  digits.foldl (fun acc b => acc * 16 + (digit? b).getD 0) 0

/-- Whether a byte may stand in an extension of a size: no line feed and no carriage return. -/
def isExtensionByte (b : UInt8) : Bool := b != lineFeed && b != carriageReturn

/-- Skips what may follow the digits of a size: blanks, and an extension behind a semicolon. -/
def skipExtension (bs : Bytes) : Bytes :=
  match bs.dropWhile isBlankByte with
  | 59 :: rest => rest.dropWhile isExtensionByte
  | rest => rest

/-- Reads the line with the size of a chunk: digits of a number below 2^64. -/
def readSize (bs : Bytes) : Except (ReadFault Unit) (Nat × Bytes) :=
  let digits := bs.takeWhile fun b => (digit? b).isSome
  let rest := bs.dropWhile fun b => (digit? b).isSome
  if Nat.pow 2 64 ≤ valueOf digits then .error (.malformed ())
  else if bs = [] then .error .cutShort
  else if digits = [] then .error (.malformed ())
  else (readStrictLineEnd () (skipExtension rest)).map (valueOf digits, ·)

/-- Reads chunks up to the one of size zero, at most `most` of them. Answers their data, the last
chunk first, and what follows the line of that size. -/
def readChunks : (most : Nat) → (done : List Bytes) → Bytes →
    Except (ReadFault Unit) (List Bytes × Bytes)
  | 0, _, _ => .error .cutShort
  | most + 1, done, bs =>
    match readSize bs with
    | .error e => .error e
    | .ok (0, rest) => .ok (done, rest)
    | .ok (size, rest) =>
      let data := rest.take size
      if data.length < size then .error .cutShort
      else
        match readStrictLineEnd () (rest.drop size) with
        | .error e => .error e
        | .ok rest => readChunks most (data :: done) rest

/-- The lines behind the last chunk, with the empty line that ends them. A carriage return only
stands in front of a line feed there. -/
def trailerLines : (atStart : Bool) → Bytes → Except (ReadFault Unit) Bytes
  | _, [] => .error .cutShort
  | _, [13] => .error .cutShort
  | true, 13 :: 10 :: _ => .ok [13, 10]
  | false, 13 :: 10 :: rest => (trailerLines true rest).map ([13, 10] ++ ·)
  | _, b :: rest =>
    if b = carriageReturn then .error (.malformed ())
    else (trailerLines false rest).map (b :: ·)

/-- The data of a body in chunks at the front of some bytes, if all of it is there. Fields behind
the last chunk are read and dropped. -/
def read (bs : Bytes) : Except (ReadFault Unit) Bytes :=
  match readChunks (bs.length + 1) [] bs with
  | .error e => .error e
  | .ok (done, rest) =>
    match trailerLines true rest with
    | .error e => .error e
    | .ok lines =>
      match readFields () () maxFields lines with
      | .ok _ => .ok done.reverse.flatten
      | .error _ => .error (.malformed ())

end Chunked

end Gatehouse
