import Gatehouse.Proofs.Forwarding.HopFields
import Gatehouse.Proofs.Http.LetterCase

/-!
# Opening handshakes as backends receive them

The router asks a backend for WebSocket on its own account. Whatever a client has sent, in whatever
letter case and however often, the backend receives exactly one value for each of the fields that
ask for WebSocket, and none for those that ask for extensions and protocols. The host is that of
the endpoint. All other fields that concern more than one hop are those of the client.

## Main definitions

* `Headers.negotiatedNames`, `Headers.oneHopNames` : names of fields that concern one hop.
* `Headers.IsOpening` : the fields of an opening handshake for a client.

## Main results

* `HttpForwarder.isOpening_openingHeaders` : the fields that are made for a client.
* `HttpForwarder.isOpening_of_delivery` : the fields that a backend receives.
* `HttpForwarder.opening_of_request` : the opening handshake for a request.
-/

namespace Gatehouse

/-- The names of the fields that negotiate a WebSocket connection. -/
def Headers.negotiatedNames : List String :=
  ["upgrade", "connection", "sec-websocket-key", "sec-websocket-version",
    "sec-websocket-extensions", "sec-websocket-protocol"]

/-- The names of the fields that concern one hop of a connection. -/
def Headers.oneHopNames : List String :=
  ["connection", "proxy-connection", "keep-alive", "proxy-authenticate", "proxy-authorization",
    "te", "trailer", "transfer-encoding", "upgrade"]

theorem HeaderFilter.allows_webSocket_iff {name : String} :
    webSocket.allows name = true ↔
      String.ofList (Text.toLower name.toList) ∉ Headers.negotiatedNames :=
  allows_iff_lower_notMem (by decide)

/-- The fields of an opening handshake that is made under a key for a client. The router alone
decides on those that negotiate and on the host; it keeps the others, apart from those that concern
one hop, in whatever case their names are written, and from those that it adds values to. -/
structure Headers.IsOpening (sent client : Headers) (host : String) (key : Bytes) : Prop where
  upgrade : sent.values "upgrade" = [Bytes.ofText "websocket"]
  connection : sent.values "connection" = [Bytes.ofText "Upgrade"]
  version : sent.values "sec-websocket-version" = [Bytes.ofText "13"]
  key : sent.values "sec-websocket-key" = [key]
  extensions : sent.values "sec-websocket-extensions" = []
  protocol : sent.values "sec-websocket-protocol" = []
  host : sent.values "host" = [Bytes.ofText host]
  kept : ∀ name, String.ofList (Text.toLower name.toList) ∉ negotiatedNames → name ≠ "host" →
    String.ofList (Text.toLower name.toList) ∉ oneHopNames → name ∉ Forwarded.names →
      sent.values name = client.values name

/-- An opening handshake stays one whatever becomes of its transfer coding. -/
theorem Headers.IsOpening.of_values {sent sent' client : Headers} {host : String} {key : Bytes}
    (h : sent.IsOpening client host key)
    (hsame : ∀ name, name ≠ "transfer-encoding" → sent'.values name = sent.values name) :
    sent'.IsOpening client host key where
  upgrade := (hsame _ (by decide)).trans h.upgrade
  connection := (hsame _ (by decide)).trans h.connection
  version := (hsame _ (by decide)).trans h.version
  key := (hsame _ (by decide)).trans h.key
  extensions := (hsame _ (by decide)).trans h.extensions
  protocol := (hsame _ (by decide)).trans h.protocol
  host := (hsame _ (by decide)).trans h.host
  kept name hnegotiated hhost hhop hforwarded := by
    have hcoding : name ≠ "transfer-encoding" := by
      rintro rfl
      revert hhop
      decide
    exact (hsame name hcoding).trans (h.kept name hnegotiated hhost hhop hforwarded)

namespace HttpForwarder

variable {f : HttpForwarder} {forwarded : Forwarded} {key : Bytes} {client : Headers}

/-- The values of an opening handshake for the names that the router does not add values to. -/
theorem values_openingHeaders_of_not_mem {name : String} (hopening : name ∉ openingNames)
    (hforwarded : name ∉ Forwarded.names) :
    (openingHeaders key (f.handshakeHeaders forwarded client)).values name =
      (if HeaderFilter.webSocket.allows name ∧ name ≠ "host" then client.values name else []) ++
        if name = "host" then (HeaderValue.ofText? f.host).toList else [] := by
  have hnone : (forwarded.apply .empty).values name = [] :=
    Forwarded.values_apply_of_not_mem forwarded .empty hforwarded
  rw [values_openingHeaders, if_neg hopening, values_handshakeHeaders, hnone, List.append_nil]

/-- The router makes the fields of an opening handshake for every client. -/
theorem isOpening_openingHeaders (hhost : HeaderValue.isValid (Bytes.ofText f.host) = true) :
    (openingHeaders key (f.handshakeHeaders forwarded client)).IsOpening client f.host key where
  upgrade := by simp [openingHeaders, Headers.values_insert]
  connection := by simp [openingHeaders, Headers.values_insert]
  version := by simp [openingHeaders, Headers.values_insert, WebSocket.version]
  key := values_openingHeaders_key key _
  extensions := by
    have hdenied : HeaderFilter.webSocket.allows "sec-websocket-extensions" = false := by decide
    rw [values_openingHeaders_of_not_mem (by decide) (by decide), hdenied]
    rfl
  protocol := by
    have hdenied : HeaderFilter.webSocket.allows "sec-websocket-protocol" = false := by decide
    rw [values_openingHeaders_of_not_mem (by decide) (by decide), hdenied]
    rfl
  host := by
    have hvalue : HeaderValue.ofText? f.host = some (Bytes.ofText f.host) := if_pos hhost
    rw [values_openingHeaders_of_not_mem (by decide) (by decide), if_neg fun h => h.2 rfl,
      if_pos rfl, hvalue]
    rfl
  kept name hnegotiated hhost' _ hforwarded := by
    have hwebSocket := HeaderFilter.allows_webSocket_iff.2 hnegotiated
    have hopening : name ∉ openingNames := fun hname =>
      Bool.false_ne_true ((allows_of_mem_openingNames hname).symm.trans hwebSocket)
    rw [values_openingHeaders_of_not_mem hopening hforwarded, if_pos ⟨hwebSocket, hhost'⟩,
      if_neg hhost', List.append_nil]

/-! ### What a backend receives -/

variable {τ : Type} {resolver : Resolver τ} {servers : BackendStream τ → BackendServer}
  {draws : Draws} {peer : SocketAddress} {port : Nat} {r request : Request}

theorem isOpening_of_opening (hhost : HeaderValue.isValid (Bytes.ofText f.host) = true)
    (hopening : f.opening forwarded key r = some request) :
    request.headers.IsOpening r.headers f.host key ∧ request.body = .sized [] := by
  obtain ⟨uri, -, rfl⟩ := Option.map_eq_some_iff.1 hopening
  exact ⟨isOpening_openingHeaders hhost, rfl⟩

/-- A request without a body is received with its fields, apart from its transfer coding. -/
theorem values_of_deliver_empty {delivery : Delivery} (hbody : request.body = .sized [])
    (hdeliver : request.deliver = some delivery) {name : String}
    (hname : name ≠ "transfer-encoding") :
    delivery.headers.values name = request.headers.values name := by
  rw [Request.deliver, hbody] at hdeliver
  cases hdeliver
  show (framedHeaders request.method request.headers request.body).values name = _
  rw [hbody]
  exact (Headers.values_remove ..).trans (if_neg hname)

/-- A backend receives an opening handshake for a request for WebSocket, or nothing. -/
theorem isOpening_of_delivery (hhost : HeaderValue.isValid (Bytes.ofText f.host) = true)
    (hasks : asksForWebSocket r.method r.headers = true) {delivery : Delivery}
    (hdelivery : (f.handle resolver servers draws key peer port r).delivery = some delivery) :
    delivery.headers.IsOpening r.headers f.host key := by
  obtain ⟨request, hsent, hdeliver⟩ := exists_sent_of_delivery hdelivery
  rw [sent?, if_pos hasks] at hsent
  obtain ⟨hopening, hbody⟩ := isOpening_of_opening hhost hsent
  exact hopening.of_values fun name => values_of_deliver_empty hbody hdeliver

/-- The opening handshake for a request.

It is sent if its target can be written. It is one under the key of the router and with the host of
the endpoint, as it is sent and as a backend receives it. What is kept of the request are the values
that the client has sent under a name in any letter case, in their order. -/
theorem opening_of_request (hhost : HeaderValue.isValid (Bytes.ofText f.host) = true)
    (hasks : asksForWebSocket r.method r.headers = true) (resolver : Resolver τ)
    (servers : BackendStream τ → BackendServer) (draws : Draws) (key : Bytes)
    (peer : SocketAddress) (port : Nat) :
    let forwarded : Forwarded := ⟨peer, port, f.listenScheme⟩
    (f.sent? forwarded key r).isSome = (Uri.parse? (f.director.pathAndQuery r.uri)).isSome ∧
    (∀ request, f.sent? forwarded key r = some request →
      request.headers.IsOpening r.headers f.host key) ∧
    (∀ delivery, (f.handle resolver servers draws key peer port r).delivery = some delivery →
      delivery.headers.IsOpening r.headers f.host key) ∧
    ∀ s : SentRequest, s.accept = .ok r → ∀ name, HeaderName.parse? name.toList = some name →
      name ≠ "content-length" → name ≠ "transfer-encoding" →
        r.headers.values name = sentValues s.fields name := by
  intro forwarded
  have hsent? : f.sent? forwarded key r = f.opening forwarded key r := if_pos hasks
  refine ⟨?_, fun request hsent => ?_, fun delivery => isOpening_of_delivery hhost hasks,
    fun s hs name => SentRequest.values_of_accept hs hasks⟩
  · rw [hsent?, opening, Option.isSome_map]
  · exact (isOpening_of_opening hhost (hsent?.symm.trans hsent)).1

/-- An opening handshake as a client may write it, with a protocol and a host of its own choice. -/
def tracedSent : SentRequest where
  method := "GET"
  target := "/chat"
  version := .v11
  fields := [("Host", Bytes.ofText "client.test"), ("UPGRADE", Bytes.ofText "websocket"),
    ("Connection", Bytes.ofText "Upgrade"), ("Sec-WebSocket-Version", Bytes.ofText "13"),
    ("Sec-WebSocket-Key", Bytes.ofText "AAAAAAAAAAAAAAAAAAAAAA=="),
    ("Sec-WebSocket-Protocol", Bytes.ofText "chat"), ("X-Trace", Bytes.ofText "a"),
    ("sec-websocket-key", Bytes.ofText "repeated"), ("x-trace", Bytes.ofText "b")]
  content := .nothing

/-- The request that is handled for it. -/
def tracedRequest : Request where
  method := "GET"
  uri := ⟨none, "", "/chat", none⟩
  headers := ⟨tracedSent.fields.map fun f =>
    ⟨String.ofList (Text.toLower f.1.toList), HeaderValue.trimmed f.2⟩⟩
  body := .sized []
  version := .v11

theorem opening_of_tracedRequest :
    create ⟨"http", none, "", none, none⟩ rackUpstream "a.test" = .ok rackForwarder ∧
    HeaderValue.isValid (Bytes.ofText rackForwarder.host) = true ∧
    asksForWebSocket tracedRequest.method tracedRequest.headers = true ∧
    tracedSent.accept = .ok tracedRequest ∧
    ∃ delivery, (rackForwarder.handle rackResolver (fun _ => chatServer) (fun _ => 0) chatKey
        ⟨.v4 ⟨10, 0, 0, 7⟩, 51234⟩ 80 tracedRequest).delivery = some delivery ∧
      delivery.headers.IsOpening tracedRequest.headers "a.test" chatKey ∧
      delivery.headers.values "x-trace" = [Bytes.ofText "a", Bytes.ofText "b"] := by
  have hhost : HeaderValue.isValid (Bytes.ofText rackForwarder.host) = true := by decide +kernel
  have hasks : asksForWebSocket tracedRequest.method tracedRequest.headers = true := by
    decide +kernel
  have haccept : tracedSent.accept = .ok tracedRequest := by rfl
  obtain ⟨-, -, hreceived, hread⟩ := opening_of_request hhost hasks rackResolver
    (fun _ => chatServer) (fun _ => 0) chatKey ⟨.v4 ⟨10, 0, 0, 7⟩, 51234⟩ 80
  obtain ⟨delivery, hdelivery⟩ := Option.isSome_iff_exists.1 (show (rackForwarder.handle
    rackResolver (fun _ => chatServer) (fun _ => 0) chatKey ⟨.v4 ⟨10, 0, 0, 7⟩, 51234⟩ 80
    tracedRequest).delivery.isSome = true by decide +kernel)
  have hopening := hreceived delivery hdelivery
  refine ⟨rfl, hhost, hasks, haccept, delivery, hdelivery, hopening, ?_⟩
  rw [hopening.kept "x-trace" (by decide) (by decide) (by decide) (by decide),
    hread tracedSent haccept "x-trace" (by decide) (by decide) (by decide)]
  decide +kernel

end HttpForwarder

end Gatehouse
