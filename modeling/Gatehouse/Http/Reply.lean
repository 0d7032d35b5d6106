import Gatehouse.Http.Framing
import Gatehouse.Http.Message

/-!
# Responses as backends send them

A backend answers with the bytes of a response: a status line, fields, and a body. They come one
part after the other, and their end may never come. Interim responses in front of the final one are
skipped. What cannot be read as a response is a failure, at once if it is malformed, and at its end
if it is cut short. A body that breaks off still leaves the status and the fields.

A backend behind a relay is heard for as long as the relay lives. A relay that may be idle for some
time only ends at that time after the request, because nothing more is sent to the backend then.

## Main definitions

* `ReplyEnd`, `Reply` : what a backend sends, and when.
* `Reply.bytes`, `Reply.ending?`, `Reply.relayed` : its bytes, its end, and what a relay leaves of
  it.
* `ResponseFault` : what may be wrong with a response, with its wording.
* `ResponseHead`, `ResponseHead.read` : the status line and the fields.
* `ReceivedBody.read` : the body of a response.
* `Response.read` : the response to a request of some method, and what follows its head.
-/

namespace Gatehouse

/-! ### Replies -/

/-- How a connection ends. -/
inductive ReplyEnd where
  /-- The sender has closed it in order. -/
  | closed
  /-- It has broken off. -/
  | brokenOff
  deriving DecidableEq, Repr

/-- What a backend sends. Times are in milliseconds, and are counted from the part before, or from
the request. -/
inductive Reply where
  /-- Nothing more, ever. -/
  | silence
  | ends (delay : Nat) (ending : ReplyEnd)
  | part (delay : Nat) (data : Bytes) (rest : Reply)
  deriving DecidableEq, Repr

namespace Reply

/-- All bytes. -/
def bytes : Reply → Bytes
  | .silence => []
  | .ends .. => []
  | .part _ data rest => data ++ rest.bytes

/-- How the connection ends, if it ever does. -/
def ending? : Reply → Option ReplyEnd
  | .silence => none
  | .ends _ ending => some ending
  | .part _ _ rest => rest.ending?

/-- The reply that consists of some bytes, with which the connection is closed. -/
def ofBytes (data : Bytes) : Reply := .part 0 data (.ends 0 .closed)

/-- What comes of a reply through a relay that lives for `limit`, or for as long as the backend does
if there is no limit. A relay that ends, and one whose backend breaks off, just gives its pipe up,
which looks like `cut` from the other end. -/
def relayed (cut : ReplyEnd) : (limit : Option Nat) → Reply → Reply
  | none, .silence => .silence
  | some t, .silence => .ends t cut
  | limit, .ends delay ending =>
    if limit.all (delay < ·) then .ends delay (if ending = .closed then .closed else cut)
    else .ends (limit.getD delay) cut
  | limit, .part delay data rest =>
    if limit.all (delay < ·) then .part delay data (relayed cut (limit.map (· - delay)) rest)
    else .ends (limit.getD delay) cut

end Reply

/-! ### Heads -/

/-- What may be wrong with a response. -/
inductive ResponseFault where
  | version
  | status
  | field
  /-- There are too many fields. -/
  | tooLarge
  | contentLength
  | transferEncoding
  deriving DecidableEq, Repr

/-- The wording of a fault. -/
def ResponseFault.message : ResponseFault → String
  | .version => "invalid HTTP version parsed"
  | .status => "invalid HTTP status-code parsed"
  | .field => "invalid HTTP header parsed"
  | .tooLarge => "message head is too large"
  | .contentLength => "invalid content-length parsed"
  | .transferEncoding => "unexpected transfer-encoding parsed"

/-- What stands in front of the body of a response. -/
structure ResponseHead where
  /-- Whether the response is in version 1.0 of the protocol. -/
  isOld : Bool
  status : Nat
  headers : Headers
  deriving DecidableEq, Repr

/-- Skips empty lines. -/
def skipEmptyLines : Bytes → Bytes
  | 10 :: rest => skipEmptyLines rest
  | 13 :: 10 :: rest => skipEmptyLines rest
  | bs => bs

/-- Removes the bytes of a text from the front. -/
def skipText (fault : ResponseFault) :
    (text : Bytes) → Bytes → Except (ReadFault ResponseFault) Bytes
  | [], bs => .ok bs
  | _ :: _, [] => .error .cutShort
  | t :: text, b :: bs => if t = b then skipText fault text bs else .error (.malformed fault)

/-- Reads the version: whether it is 1.0 and not 1.1. -/
def readMinorVersion (bs : Bytes) : Except (ReadFault ResponseFault) (Bool × Bytes) :=
  match skipText .version (Bytes.ofText "HTTP/1.") bs with
  | .error e => .error e
  | .ok [] => .error .cutShort
  | .ok (48 :: rest) => .ok (true, rest)
  | .ok (49 :: rest) => .ok (false, rest)
  | .ok _ => .error (.malformed .version)

/-- Reads a decimal digit of a status. -/
def readStatusDigit : Bytes → Except (ReadFault ResponseFault) (Nat × Bytes)
  | [] => .error .cutShort
  | b :: rest => if 48 ≤ b ∧ b ≤ 57 then .ok (b.toNat - 48, rest) else .error (.malformed .status)

/-- Reads a status of three digits, at least 100. -/
def readStatus (bs : Bytes) : Except (ReadFault ResponseFault) (Nat × Bytes) := do
  let (a, bs) ← readStatusDigit bs
  let (b, bs) ← readStatusDigit bs
  let (c, bs) ← readStatusDigit bs
  let n := a * 100 + b * 10 + c
  if 100 ≤ n then .ok (n, bs) else .error (.malformed .status)

/-- Skips the reason behind a status, if there is one, and the end of the line. -/
def skipReason (bs : Bytes) : Except (ReadFault ResponseFault) Bytes :=
  match bs with
  | 32 :: rest => readLineEnd .status (rest.dropWhile HeaderValue.isValidByte)
  | bs => readLineEnd .status bs

/-- Reads the head of a response. -/
def ResponseHead.read (bs : Bytes) : Except (ReadFault ResponseFault) (ResponseHead × Bytes) := do
  let (isOld, bs) ← readMinorVersion (skipEmptyLines bs)
  let (status, bs) ← readStatus (← skipText .version [32] bs)
  let (headers, bs) ← readFields .field .tooLarge maxFields (← skipReason bs)
  return (⟨isOld, status, headers⟩, bs)

/-- Whether a response only precedes the final one. -/
def ResponseHead.isInterim (h : ResponseHead) : Bool :=
  100 ≤ h.status && h.status < 200 && h.status != Status.switchingProtocols

/-- Reads the head of the final response, behind at most `most` interim ones. -/
def ResponseHead.readFinal :
    (most : Nat) → Bytes → Except (ReadFault ResponseFault) (ResponseHead × Bytes)
  | 0, _ => .error .cutShort
  | most + 1, bs =>
    match ResponseHead.read bs with
    | .error e => .error e
    | .ok (h, rest) => if h.isInterim then readFinal most rest else .ok (h, rest)

/-! ### Bodies -/

/-- Where the body of a response ends. -/
inductive ResponseFraming where
  /-- There is no body, whatever the fields tell. -/
  | absent
  | length (n : Nat)
  | chunked
  /-- The body ends with the connection. -/
  | untilClosed
  deriving DecidableEq, Repr

/-- The framing of the response to a request of some method, unless the fields contradict each
other. -/
def ResponseHead.framing (method : String) (h : ResponseHead) :
    Except ResponseFault ResponseFraming :=
  if h.status = Status.switchingProtocols ∨ h.status = 204 ∨ h.status = 304 then .ok .absent
  else if method = "HEAD" then .ok .absent
  else if method = "CONNECT" ∧ 200 ≤ h.status ∧ h.status < 300 then .ok .absent
  else if h.headers.contains "transfer-encoding" then
    if h.isOld then .error .transferEncoding
    else if TransferEncoding.isChunked (h.headers.values "transfer-encoding") then .ok .chunked
    else .ok .untilClosed
  else if h.headers.contains "content-length" then
    match ContentLength.agreed? (h.headers.values "content-length") with
    | none => .error .contentLength
    | some n => if ContentLength.bound ≤ n then .error .tooLarge else .ok (.length n)
  else .ok .untilClosed

/-- A body that is cut short: its end is missing, or never comes. -/
def ReceivedBody.cut : Option ReplyEnd → ReceivedBody
  | some _ => .broken
  | none => .unfinished

/-- The body in some framing, given all bytes that come behind the head and how the connection
ends, if it ever does. -/
def ReceivedBody.read (framing : ResponseFraming) (bs : Bytes) (ending? : Option ReplyEnd) :
    ReceivedBody :=
  match framing with
  | .absent => .complete []
  | .untilClosed => if ending? = some .closed then .complete bs else .cut ending?
  | .length n =>
    let data := bs.take n
    if data.length < n then .cut ending? else .complete data
  | .chunked =>
    match Chunked.read bs with
    | .ok data => .complete data
    | .error .cutShort => .cut ending?
    | .error (.malformed _) => .broken

/-- The response to a request of some method, given all bytes and how the connection ends, if it
ever does. Answers also what follows the head. -/
def Response.read (method : String) (bs : Bytes) (ending? : Option ReplyEnd) :
    Except (ReadFault ResponseFault) (Response × Bytes) :=
  match ResponseHead.readFinal (bs.length + 1) bs with
  | .error e => .error e
  | .ok (h, rest) =>
    match h.framing method with
    | .error fault => .error (.malformed fault)
    | .ok framing => .ok (⟨h.status, h.headers, ReceivedBody.read framing rest ending?⟩, rest)

end Gatehouse
