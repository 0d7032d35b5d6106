import Gatehouse.Http.Framing
import Gatehouse.Http.Message

/-!
# Requests as backends receive them

A request to a backend is framed by what is known about its body. A length that the fields tell
already is believed. Otherwise a body of known length is given one, and a body of unknown length
is sent in chunks, except with the methods that hardly ever have one: their body is dropped.

## Main definitions

* `Delivery` : a request as a backend receives it.
* `Request.announced`, `Request.deliver` : what is there of a request once its fields have been
  received, and all of it.
-/

namespace Gatehouse

/-- A request as a backend receives it. -/
structure Delivery where
  method : String
  /-- The request target as it is written. -/
  target : String
  headers : Headers
  body : Bytes
  deriving DecidableEq, Repr

/-- The first line of a request. -/
def Delivery.startLine (d : Delivery) : String := d.method ++ " " ++ d.target ++ " HTTP/1.1"

/-- The methods whose requests hardly ever have a body. -/
def rarelyHasBody (method : String) : Bool := ["GET", "HEAD", "CONNECT"].contains method

/-- The fields that are sent. -/
def framedHeaders (method : String) (h : Headers) (body : RequestBody) : Headers :=
  match body with
  | .sized [] => h.remove "transfer-encoding"
  | .sized data =>
    if (ContentLength.agreed? (h.values "content-length")).isSome then h
    else h.insert "content-length" (Bytes.ofText (toString data.length))
  | .streamed _ =>
    if (ContentLength.agreed? (h.values "content-length")).isSome || rarelyHasBody method then h
    else h.insert "transfer-encoding" (Bytes.ofText "chunked")

/-- The body that is sent. A body that is shorter than the length that is told cannot be sent. -/
def framedBody (method : String) (h : Headers) (body : RequestBody) : Option Bytes :=
  match body with
  | .sized [] => some []
  | .sized data =>
    match ContentLength.agreed? (h.values "content-length") with
    | some n => if data.length < n then none else some (data.take n)
    | none => some data
  | .streamed data =>
    match ContentLength.agreed? (h.values "content-length") with
    | some n => if data.length < n then none else some (data.take n)
    | none => if rarelyHasBody method then some [] else some data

/-- What a backend has received of a request once its fields are there. -/
def Request.announced (r : Request) : Delivery :=
  ⟨r.method, r.uri.text, framedHeaders r.method r.headers r.body, []⟩

/-- The delivery of a request, unless its body is shorter than it tells. -/
def Request.deliver (r : Request) : Option Delivery :=
  (framedBody r.method r.headers r.body).map fun body => { r.announced with body }

end Gatehouse
