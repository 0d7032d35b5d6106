import Gatehouse.Proofs.Forwarding.Answers

/-!
# When a client is upgraded

An upgrade takes two opening handshakes, the client's and one with the backend under a key of the
router's own. The client is told that it is upgraded just if both succeed; it is told the answer to
its own key, and the backend has only seen that of the router. A pump is started just if moreover
the request has been made in version 1.1 of the protocol.

## Main definitions

* `HttpForwarder.Handshakes`: what both handshakes take.

## Main results

* `BackendServer.isSome_of_secure`: a hop is secured just if it is to be.
* `HttpForwarder.failed_or_handshakes`: a request for WebSocket fails or waits, or both handshakes
  succeed.
* `HttpForwarder.Handshakes.handle`: what comes of a request when both succeed.
* `HttpForwarder.switching_iff`: when a client is upgraded.
-/

namespace Gatehouse

/-! ### Sessions -/

/-- A handshake that comes to an end leads to a session. -/
theorem TlsPeer.isSome_of_begin {peer : TlsPeer} {client : TlsClient}
    {session : Option TlsSession} (h : peer.begin client = .ok session) :
    session.isSome = true := by
  unfold TlsPeer.begin at h
  cases peer with
  | plain | fails | silent => cases h
  | speaks server =>
    dsimp only at h
    split at h
    next => cases h
    next =>
      cases h
      rfl

/-- A hop is secured just if it is to be. -/
theorem BackendServer.isSome_of_secure {s : BackendServer} {security : HopSecurity}
    {session : Option TlsSession} (h : s.secure security = .ok session) :
    session.isSome = true ↔ security ≠ .plain := by
  unfold secure at h
  split at h
  next =>
    cases h
    simp
  next =>
    split at h
    next => cases h
    next => exact iff_of_true (TlsPeer.isSome_of_begin h) nofun

/-- A request that fails is not answered as one that is upgraded. -/
theorem Handled.status?_of_failed (e : RouterError) :
    (Handled.failed e).status? ≠ some Status.switchingProtocols := by
  obtain ⟨hresponse, hstatus⟩ := Handled.response?_of_ownStatus? (x := .failed e) rfl
  rw [status?, hresponse]
  rcases hstatus with hcode | hcode | hcode <;> simp [Response.ofStatus, hcode] <;> decide

namespace HttpForwarder

/-- The key of an opening handshake is the one that it is made under. -/
theorem values_openingHeaders_key (key : Bytes) (h : Headers) :
    (openingHeaders key h).values "sec-websocket-key" = [key] := by
  simp [openingHeaders, Headers.values_insert]

/-- A backend receives an opening handshake under the key that it is made under. -/
theorem key_of_deliver {uri : Uri} {key : Bytes} {h : Headers} {delivery : Delivery}
    (hdeliver : Request.deliver ⟨"GET", uri, openingHeaders key h, .sized [], .v11⟩ =
      some delivery) : delivery.headers.values "sec-websocket-key" = [key] := by
  cases hdeliver
  simp [Request.announced, framedHeaders, Headers.values_remove, values_openingHeaders_key]

/-- An opening handshake has no body, so a backend that is sent one receives it. -/
theorem exists_deliver_opening (uri : Uri) (key : Bytes) (h : Headers) :
    ∃ delivery, Request.deliver ⟨"GET", uri, openingHeaders key h, .sized [], .v11⟩ =
      some delivery :=
  ⟨_, rfl⟩

/-- A client that is upgraded is told exactly one answer. -/
theorem values_switching_accept (accept : Bytes) :
    (Response.switching accept).headers.values "sec-websocket-accept" = [accept] := by
  rfl

/-! ### Both handshakes -/

variable {τ : Type}

/-- What an upgrade takes: an acceptable opening handshake of the client, a connection to the
backend that is secured as it is to be, a target that can be written, and a backend that switches
protocols and whose first answer is that to the key of the router. -/
structure Handshakes (f : HttpForwarder) (resolver : Resolver τ)
    (servers : BackendStream τ → BackendServer) (draws : Draws) (key : Bytes)
    (forwarded : Forwarded) (r : Request) (stream : BackendStream τ) (session : Option TlsSession)
    (uri : Uri) (response : Response) (early : Bytes) : Prop where
  version : r.headers.first? "sec-websocket-version" = some (Bytes.ofText WebSocket.version)
  hasKey : ∃ clientKey, r.headers.first? "sec-websocket-key" = some clientKey
  connected : (resolver.connect f.target draws).result = .ok stream
  secured : (resolver.met servers stream).secure f.webSocketSecurity = .ok session
  written : Uri.parse? (f.director.pathAndQuery r.uri) = some uri
  answered : Hop.Answers ⟨resolver.met servers stream, session⟩ ⟨"GET", uri,
    openingHeaders key (f.handshakeHeaders forwarded r.headers), .sized [], .v11⟩ response early
  switched : response.status = Status.switchingProtocols
  accepted : response.headers.first? "sec-websocket-accept" = some (WebSocket.acceptValue key)

variable {f : HttpForwarder} {resolver : Resolver τ} {servers : BackendStream τ → BackendServer}
  {draws : Draws} {key : Bytes} {peer : SocketAddress} {port : Nat} {r : Request}
  {stream : BackendStream τ} {session : Option TlsSession} {uri : Uri} {response : Response}
  {early : Bytes}

/-- When both handshakes succeed, the client is told the answer to its own key. -/
theorem Handshakes.handle (hasks : asksForWebSocket r.method r.headers = true)
    (h : f.Handshakes resolver servers draws key ⟨peer, port, f.listenScheme⟩ r stream session uri
      response early) {clientKey : Bytes}
    (hkey : r.headers.first? "sec-websocket-key" = some clientKey) :
    ∃ delivery, delivery.headers.values "sec-websocket-key" = [key] ∧
      f.handle resolver servers draws key peer port r =
        ⟨.upgraded (WebSocket.acceptValue clientKey) early,
          (resolver.connect f.target draws).calls, (resolver.connect f.target draws).drawsUsed,
          some delivery, session, false, true⟩ := by
  obtain ⟨delivery, hdeliver⟩ := exists_deliver_opening uri key
    (f.handshakeHeaders ⟨peer, port, f.listenScheme⟩ r.headers)
  refine ⟨delivery, key_of_deliver hdeliver, ?_⟩
  have hexchanged : f.Exchanged resolver servers draws key ⟨peer, port, f.listenScheme⟩ r
      ⟨resolver.met servers stream, session⟩ ⟨"GET", uri, openingHeaders key
        (f.handshakeHeaders ⟨peer, port, f.listenScheme⟩ r.headers), .sized [], .v11⟩ response
        early := by
    refine ⟨Resolver.openHop_eq_ok_iff.2 ⟨stream, h.connected, ?_, rfl⟩, ?_, h.answered⟩
    · simpa only [securityFor, hasks, if_true] using h.secured
    · simp only [sent?, hasks, if_true, opening, h.written, Option.map_some]
  have haccept := acceptInbound_of_isAcceptable h.version hkey
  rw [handle_of_webSocket hasks haccept hexchanged h.switched h.accepted, hdeliver]

/-- A request for WebSocket fails or waits forever, or both handshakes succeed. -/
theorem failed_or_handshakes (f : HttpForwarder) (resolver : Resolver τ)
    (servers : BackendStream τ → BackendServer) (draws : Draws) (key : Bytes)
    (peer : SocketAddress) (port : Nat) (hasks : asksForWebSocket r.method r.headers = true) :
    (∃ e, (f.handle resolver servers draws key peer port r).outcome = .failed e) ∨
      (f.handle resolver servers draws key peer port r).outcome = .pending ∨
      ∃ stream session uri response early, f.Handshakes resolver servers draws key
        ⟨peer, port, f.listenScheme⟩ r stream session uri response early := by
  by_cases hrefused : r.IsRefused
  · obtain ⟨text, hhandle⟩ := handle_of_isRefused f resolver servers draws key peer port hrefused
    exact .inl ⟨_, congrArg Handling.outcome hhandle⟩
  · rcases failure_or_exchanged f resolver servers draws key ⟨peer, port, f.listenScheme⟩ r with
      ⟨e, hfailure⟩ | ⟨hop, request, response, early, hexchanged, hcheck⟩ | hwaits
    · exact .inl ⟨e, outcome_of_failure hrefused hfailure⟩
    · obtain ⟨hversion, hkey⟩ : r.headers.IsAcceptable :=
        Classical.byContradiction fun hbad => hrefused ⟨hasks, hbad⟩
      obtain ⟨hopened, hsent, hanswered⟩ := hexchanged
      obtain ⟨hswitched, haccepted⟩ := hcheck hasks
      obtain ⟨stream, hconnected, hsecured, hserver⟩ := Resolver.openHop_eq_ok_iff.1 hopened
      simp only [securityFor, hasks, if_true] at hsecured
      simp only [sent?, hasks, if_true, opening] at hsent
      obtain ⟨uri, hwritten, rfl⟩ := Option.map_eq_some_iff.1 hsent
      obtain ⟨server, session⟩ := hop
      cases hserver
      exact .inr (.inr ⟨stream, session, uri, response, early, hversion, hkey, hconnected,
        hsecured, hwritten, hanswered, hswitched, haccepted⟩)
    · exact .inr (.inl (outcome_of_waits hrefused hwaits))

/-- A client is told that it is upgraded just if both handshakes succeed. -/
theorem status?_eq_switchingProtocols_iff (hasks : asksForWebSocket r.method r.headers = true) :
    (f.handle resolver servers draws key peer port r).outcome.status? =
        some Status.switchingProtocols ↔
      ∃ stream session uri response early, f.Handshakes resolver servers draws key
        ⟨peer, port, f.listenScheme⟩ r stream session uri response early := by
  constructor
  · intro hstatus
    rcases failed_or_handshakes f resolver servers draws key peer port hasks with
      ⟨e, hfailed⟩ | hpending | hhandshakes
    · rw [hfailed] at hstatus
      exact absurd hstatus (Handled.status?_of_failed e)
    · rw [hpending] at hstatus
      cases hstatus
    · exact hhandshakes
  · rintro ⟨stream, session, uri, response, early, h⟩
    obtain ⟨clientKey, hkey⟩ := h.hasKey
    obtain ⟨delivery, -, hhandle⟩ := h.handle hasks hkey
    rw [hhandle]
    rfl

/-- A task that pumps is started for a request just if the client is upgraded. -/
theorem isBridged_handleWebSocket (forwarded : Forwarded) :
    (f.handleWebSocket resolver servers draws key forwarded r).isBridged = true ↔
      ∃ accept early, (f.handleWebSocket resolver servers draws key forwarded r).outcome =
        .upgraded accept early := by
  unfold handleWebSocket
  dsimp only
  split
  next => simp [unsent]
  next =>
    split
    next => simp [unsent]
    next => simp [unsent]
    next =>
      split
      next => simp
      next =>
        split
        next => simp
        next => simp
        next => split <;> simp

/-- When a client is upgraded. It is told so just if its own version and key are acceptable, the
connection to the backend opens and is secured as it is to be, the target can be written, and the
backend switches protocols with the answer to the key of the router. It is then told the answer to
its own key alone, the backend has received the key of the router alone, and a pump is started if
the request has been made in version 1.1 of the protocol. Otherwise the request fails or waits
forever, and no pump is started. -/
theorem switching_iff (f : HttpForwarder) (resolver : Resolver τ)
    (servers : BackendStream τ → BackendServer) (draws : Draws) (key : Bytes)
    (peer : SocketAddress) (port : Nat) (r : Request)
    (hasks : asksForWebSocket r.method r.headers = true) :
    let handling := f.handle resolver servers draws key peer port r
    let status? := handling.outcome.status?
    (status? = some Status.switchingProtocols ↔ ∃ stream session uri answer early,
      f.Handshakes resolver servers draws key ⟨peer, port, f.listenScheme⟩ r stream session uri
        answer early) ∧
    (status? = some Status.switchingProtocols →
      (∃ clientKey response, r.headers.first? "sec-websocket-key" = some clientKey ∧
        handling.outcome.response? = some response ∧
        response = .switching (WebSocket.acceptValue clientKey) ∧
        response.headers.values "sec-websocket-accept" = [WebSocket.acceptValue clientKey]) ∧
      (∃ delivery, handling.delivery = some delivery ∧
        delivery.headers.values "sec-websocket-key" = [key]) ∧
      (handling.session.isSome = true ↔ f.webSocketSecurity ≠ .plain) ∧
      ∀ now, handling.pump? r.version now = if r.version = .v11 then some (.start now) else none) ∧
    (status? ≠ some Status.switchingProtocols →
      ((∃ e, handling.outcome = .failed e) ∨ handling.outcome = .pending) ∧
      ∀ now, handling.pump? r.version now = none) := by
  intro handling status?
  have hiff : status? = some Status.switchingProtocols ↔ _ :=
    status?_eq_switchingProtocols_iff hasks
  refine ⟨hiff, fun hstatus => ?_, fun hstatus => ?_⟩
  · obtain ⟨stream, session, uri, answer, early, h⟩ := hiff.1 hstatus
    obtain ⟨clientKey, hkey⟩ := h.hasKey
    obtain ⟨delivery, hdelivered, hhandle⟩ := h.handle hasks hkey
    simp only [handling, hhandle]
    refine ⟨⟨clientKey, _, hkey, rfl, rfl, values_switching_accept _⟩, ⟨delivery, rfl, hdelivered⟩,
      BackendServer.isSome_of_secure h.secured, fun now => ?_⟩
    simp [Handling.pump?]
  · have houtcome : (∃ e, handling.outcome = .failed e) ∨ handling.outcome = .pending := by
      rcases failed_or_handshakes f resolver servers draws key peer port hasks with
        hfailed | hpending | hhandshakes
      · exact .inl hfailed
      · exact .inr hpending
      · exact absurd (hiff.2 hhandshakes) hstatus
    refine ⟨houtcome, fun now => if_neg fun hpump => ?_⟩
    have hhandle : handling =
        f.handleWebSocket resolver servers draws key ⟨peer, port, f.listenScheme⟩ r := by
      simp only [handling, handle, hasks, if_true]
    obtain ⟨accept, early, hupgraded⟩ :=
      (isBridged_handleWebSocket _).1 (hhandle ▸ hpump.1)
    rw [← hhandle] at hupgraded
    rcases houtcome with ⟨e, hfailed⟩ | hpending
    · cases hfailed.symm.trans hupgraded
    · cases hpending.symm.trans hupgraded

/-- A resource of the rack as a target. -/
def rackUpstream : Url :=
  ⟨"http", some ⟨"", none, some (.name "rack"), none⟩, "/app/resource/chat:80", none, none⟩

/-- The settings for it. -/
def rackForwarder : HttpForwarder where
  listenScheme := "http"
  target := rackUpstream
  host := "a.test"
  director := .rack
  requestSecurity := .plain
  webSocketSecurity := .tls .anyone "a.test"

/-- A resolver whose rack opens every tunnel. -/
def rackResolver : Resolver Unit :=
  ⟨⟨fun _ _ => .ok [], fun _ _ _ => .ok (), fun _ _ => .ok ()⟩, .unreachable, 0, none⟩

/-- The key that the backend expects. -/
def chatKey : Bytes := Bytes.ofText "dGhlIHNhbXBsZSBub25jZQ=="

/-- A certificate that nobody vouches for. -/
def unknownCertificate : Certificate :=
  ⟨"other.test", "unknown authority", 0, some unknownIssuer⟩

/-- A backend with that certificate that accepts opening handshakes under that key. -/
def chatServer : BackendServer where
  tls := .speaks ⟨unknownCertificate, [], .v13⟩
  early _ := none
  answer _ := some (.ofBytes (Bytes.ofText ("HTTP/1.1 101 Switching Protocols\r\n" ++
    "Sec-WebSocket-Accept: s3pPLMBiTxaQ9kYGzzhZRbK+xOo=\r\n\r\n")))

/-- An opening handshake of a client, under another key. -/
def chatRequest : Request where
  method := "GET"
  uri := ⟨none, "", "/chat", none⟩
  headers := ((Headers.empty.append "upgrade" (Bytes.ofText "websocket")).append
    "sec-websocket-version" (Bytes.ofText "13")).append "sec-websocket-key"
    (Bytes.ofText "AAAAAAAAAAAAAAAAAAAAAA==")
  body := .sized []
  version := .v11

theorem switching_of_chatRequest :
    create ⟨"http", none, "", none, none⟩ rackUpstream "a.test" = .ok rackForwarder ∧
    asksForWebSocket chatRequest.method chatRequest.headers = true ∧
    (rackForwarder.handle rackResolver (fun _ => chatServer) (fun _ => 0) chatKey
        ⟨.v4 ⟨10, 0, 0, 7⟩, 51234⟩ 80 chatRequest).outcome.response? =
      some (.switching (WebSocket.acceptValue (Bytes.ofText "AAAAAAAAAAAAAAAAAAAAAA=="))) := by
  have hasks : asksForWebSocket chatRequest.method chatRequest.headers = true := by decide +kernel
  obtain ⟨-, hupgraded, -⟩ := switching_iff rackForwarder rackResolver (fun _ => chatServer)
    (fun _ => 0) chatKey ⟨.v4 ⟨10, 0, 0, 7⟩, 51234⟩ 80 chatRequest hasks
  obtain ⟨⟨clientKey, response, hkey, hresponse, rfl, -⟩, -⟩ := hupgraded (by decide +kernel)
  have hown : chatRequest.headers.first? "sec-websocket-key" =
      some (Bytes.ofText "AAAAAAAAAAAAAAAAAAAAAA==") := by decide +kernel
  cases hown.symm.trans hkey
  exact ⟨rfl, hasks, hresponse⟩

end HttpForwarder

end Gatehouse
