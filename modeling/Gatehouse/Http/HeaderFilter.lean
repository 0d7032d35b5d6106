import Gatehouse.Http.Header

/-!
# Fields that do not cross the router

Some fields concern a single hop only. A filter is a list of such names; it can copy the other
fields of a message, or strip a message of the listed fields and of all that its `Connection`
fields nominate.

## Main definitions

* `HeaderFilter`, `HeaderFilter.hopByHop`, `HeaderFilter.webSocket` : the two lists.
* `HeaderFilter.allows` : whether a name passes.
* `HeaderFilter.apply`, `HeaderFilter.strip` : copying and stripping.
* `Headers.nominated` : the names that the `Connection` fields nominate.
-/

namespace Gatehouse

/-- A list of names, in lower case, that do not pass. -/
structure HeaderFilter where
  denied : List String
  deriving DecidableEq, Repr

namespace HeaderFilter

/-- The fields that concern one hop of a connection. -/
def hopByHop : HeaderFilter :=
  ⟨["connection", "proxy-connection", "keep-alive", "proxy-authenticate", "proxy-authorization",
    "te", "trailer", "transfer-encoding", "upgrade"]⟩

/-- The fields that negotiate a WebSocket connection, and are negotiated anew on the next hop. -/
def webSocket : HeaderFilter :=
  ⟨["upgrade", "connection", "sec-websocket-key", "sec-websocket-version",
    "sec-websocket-extensions", "sec-websocket-protocol"]⟩

/-- Whether a name passes the filter, in whatever case it is written. -/
def allows (f : HeaderFilter) (name : String) : Bool :=
  !f.denied.any fun d => Text.eqIgnoreCase d.toList name.toList

/-- The fields that pass the filter. -/
def apply (f : HeaderFilter) (h : Headers) : Headers := h.filter f.allows

end HeaderFilter

/-- The names that the `Connection` fields nominate: the tokens in their values, as far as a
value is plain text. -/
def Headers.nominated (h : Headers) : List String :=
  ((h.values "connection").filterMap HeaderValue.text?).flatMap fun text =>
    (HeaderValue.listItems text).filterMap HeaderName.parse?

/-- The fields without the nominated ones and without those that the filter denies. -/
def HeaderFilter.strip (f : HeaderFilter) (h : Headers) : Headers :=
  f.denied.foldl Headers.remove (h.nominated.foldl Headers.remove h)

end Gatehouse
