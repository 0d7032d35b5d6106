import Gatehouse.Http.Framing
import Gatehouse.Http.Message

/-!
# Requests as clients send them

Before the router sees a request, its target, fields and framing are checked. Over HTTP/2 the
target comes in parts, fields that concern the connection do not occur, and the length of the
body is known only if a field tells it.

## Main definitions

* `SentContent`, `SentRequest` : what a client sends.
* `Refusal` : the status that a request is refused with before it is handled.
* `SentRequest.accept` : the request that is handled.
-/

namespace Gatehouse

/-- What a client sends behind the fields. -/
inductive SentContent where
  | nothing
  /-- A body of known length. -/
  | whole (data : Bytes)
  /-- A body in chunks. -/
  | chunked (chunks : List Bytes)
  deriving DecidableEq, Repr

/-- A request as a client sends it. -/
structure SentRequest where
  method : String
  target : String
  version : HttpVersion
  /-- The fields, with their names as they are written. -/
  fields : List (String × Bytes)
  content : SentContent
  deriving DecidableEq, Repr

/-- A request that is refused before it is handled. -/
inductive Refusal where
  | malformed
  | targetTooLong
  | headTooLarge
  deriving DecidableEq, Repr

/-- The status that a request is refused with. -/
def Refusal.status : Refusal → Nat
  | .malformed => 400
  | .targetTooLong => 414
  | .headTooLarge => 431

/-! ### Fields -/

/-- A field as it is read: its name in lower case, its value without blanks at its ends. -/
def readSentField (field : String × Bytes) : Except Refusal Header :=
  let value := ((field.2.dropWhile isBlankByte).reverse.dropWhile isBlankByte).reverse
  match HeaderName.parse? field.1.toList with
  | none => .error .malformed
  | some name => if HeaderValue.isValid value then .ok ⟨name, value⟩ else .error .malformed

/-! ### Framing before HTTP/2 -/

/-- What the fields read so far say about the body. -/
structure BodyFraming where
  /-- The fields that are kept, the last one first. -/
  kept : List Header
  length : Option Nat
  /-- Whether there is a transfer coding, and whether chunks are the last one. -/
  coding : Option Bool

/-- The framing after one more field. A length behind a transfer coding is dropped, and so is one
that repeats an earlier length. -/
def BodyFraming.add (version : HttpVersion) (s : BodyFraming) (f : Header) :
    Except Refusal BodyFraming :=
  if f.name = "transfer-encoding" then
    if version = .v10 then .error .malformed
    else .ok { s with kept := f :: s.kept, coding := some (TransferEncoding.endsChunked f.value) }
  else if f.name = "content-length" then
    if s.coding.isSome then .ok s
    else
      match ContentLength.parse? f.value with
      | none => .error .malformed
      | some n =>
        match s.length with
        | some m => if n = m then .ok s else .error .malformed
        | none =>
          if ContentLength.bound ≤ n then .error .headTooLarge
          else .ok { s with kept := f :: s.kept, length := some n }
  else .ok { s with kept := f :: s.kept }

/-- The framing that all fields give. A transfer coding must end in chunks. -/
def BodyFraming.ofFields (version : HttpVersion) (fields : List Header) :
    Except Refusal BodyFraming := do
  let s ← fields.foldlM (BodyFraming.add version) ⟨[], none, none⟩
  if s.coding = some false then .error .malformed else .ok s

namespace SentRequest

/-- The fields that frame the content. -/
def framingFields (r : SentRequest) : List (String × Bytes) :=
  match r.content with
  | .nothing => []
  | .whole data => [("Content-Length", Bytes.ofText (toString data.length))]
  | .chunked _ => [("Transfer-Encoding", Bytes.ofText "chunked")]

/-- All bytes of the content. -/
def data (r : SentRequest) : Bytes :=
  match r.content with
  | .nothing => []
  | .whole data => data
  | .chunked chunks => chunks.flatten

/-- The request target. It consists of visible ASCII characters. -/
def readTarget (target : String) : Except Refusal Uri :=
  if target.toList.any fun c => c.toNat < 0x21 || 0x7E < c.toNat then .error .malformed
  else if Uri.maxLength < target.toList.length then .error .targetTooLong
  else
    match Uri.parse? target with
    | none => .error .malformed
    | some uri => .ok uri

/-- The request that is handled when it is not sent over HTTP/2. -/
def acceptStreamed (r : SentRequest) : Except Refusal Request := do
  if !HeaderName.isToken r.method.toList then .error .malformed
  let fields ← (r.fields ++ r.framingFields).mapM readSentField
  if maxFields < fields.length then .error .headTooLarge
  let uri ← readTarget r.target
  let framing ← BodyFraming.ofFields r.version fields
  let body := if framing.coding.isSome then RequestBody.streamed r.data else .sized r.data
  return ⟨r.method, uri, ⟨framing.kept.reverse⟩, body, r.version⟩

/-! ### HTTP/2 -/

/-- The fields that concern a connection, which HTTP/2 does without. -/
def connectionFields : List String :=
  ["keep-alive", "proxy-connection", "transfer-encoding", "upgrade"]

/-- The fields as they are sent over HTTP/2: without those that concern the connection, nominated
ones included. -/
def withoutConnectionFields (h : Headers) : Headers :=
  let h := connectionFields.foldl Headers.remove h
  let h := if (h.first? "te").any (· != Bytes.ofText "trailers") then h.remove "te" else h
  match (h.first? "connection").bind HeaderValue.text? with
  | none => h.remove "connection"
  | some text =>
    ((HeaderValue.listItems text).filterMap HeaderName.parse?).foldl Headers.remove
      (h.remove "connection")

/-- Whether a request with this method has a body, if only an empty one. -/
def methodHasBody (method : String) : Bool :=
  ["GET", "HEAD", "DELETE", "CONNECT"].all (· != method)

/-- The request that is handled when it is sent over HTTP/2. -/
def acceptMultiplexed (r : SentRequest) : Except Refusal Request := do
  if !HeaderName.isToken r.method.toList then .error .malformed
  let fields ← r.fields.mapM readSentField
  let uri ← readTarget r.target
  let h := withoutConnectionFields ⟨fields⟩
  match r.content with
  | .chunked _ => return ⟨r.method, uri, h,
      if h.contains "content-length" then .sized r.data else .streamed r.data, r.version⟩
  | _ =>
    let untold := !h.contains "content-length" && (r.data != [] || methodHasBody r.method)
    let length := Bytes.ofText (toString r.data.length)
    return ⟨r.method, uri, if untold then h.append "content-length" length else h, .sized r.data,
      r.version⟩

/-- The request that is handled, or why it is refused. -/
def accept (r : SentRequest) : Except Refusal Request :=
  if r.version = .v2 then r.acceptMultiplexed else r.acceptStreamed

end SentRequest

end Gatehouse
