import Gatehouse.Http.Header

/-!
# Upgrade requests

A client asks to speak WebSocket with a `GET` request whose `Upgrade` fields list that protocol.

## Main definitions

* `Method.isValid` : which methods there are.
* `asksForWebSocket` : whether a request asks to speak WebSocket.
-/

namespace Gatehouse

/-- Whether a text is a method: a token. Case counts. -/
def Method.isValid (method : String) : Bool := HeaderName.isToken method.toList

/-- Whether a method and fields ask to speak WebSocket. -/
def asksForWebSocket (method : String) (h : Headers) : Bool :=
  method == "GET" &&
    ((h.values "upgrade").filterMap HeaderValue.text?).any fun text =>
      (HeaderValue.listItems text).any (Text.eqIgnoreCase "websocket".toList)

end Gatehouse
