import Gatehouse.Http.Header
import Gatehouse.Net.Ip

/-!
# Where a request came from

The router tells a backend about the hop before it: the address of the client, the port it
connected to, and the scheme of the listener. Each is added behind what the request already
carries.

## Main definitions

* `Forwarded` : what is known about the inbound hop.
* `Forwarded.apply` : the fields with that knowledge added.
-/

namespace Gatehouse

/-- What is known about the inbound hop. -/
structure Forwarded where
  /-- The client's address. -/
  peer : SocketAddress
  /-- The port that the client connected to. -/
  port : Nat
  /-- The scheme of the listener. -/
  proto : String
  deriving DecidableEq, Repr

namespace Forwarded

/-- Adds a field behind all others, unless the text is no header value. -/
def appendText (h : Headers) (name text : String) : Headers :=
  match HeaderValue.ofText? text with
  | some value => h.append name value
  | none => h

/-- The fields with the inbound hop added. -/
def apply (x : Forwarded) (h : Headers) : Headers :=
  let h := appendText h "x-forwarded-for" (String.ofList x.peer.ip.text)
  let h := appendText h "x-forwarded-port" (toString x.port)
  appendText h "x-forwarded-proto" x.proto

end Forwarded

end Gatehouse
