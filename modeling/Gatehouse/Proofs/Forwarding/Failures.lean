import Gatehouse.Forwarding.Handling
import Gatehouse.Proofs.Backend.Course

/-!
# What a request may fail of

A request is refused at once, or taken up and handed from layer to layer: a backend is connected
to, the hop is secured, a request is sent and answered, and for WebSocket the answer must accept the
opening handshake. Each layer has failures of its own. None of them is a refusal, and only
connecting finds that a service has no process. The rack, the handshake that begins a TLS session
and the answer are waited for without a limit, so a request may also wait forever.

## Main definitions

* `Headers.IsAcceptable`: the opening handshake of a client is one that is taken up.
* `Hop.Replies`, `Hop.Answers`, `Hop.Fails`, `Hop.Waits`: what a server does with a request.
* `RouterError.IsBadGateway`: an error that is answered as a bad gateway.
* `HttpForwarder.securityFor`, `HttpForwarder.sent?`: what differs between a plain request and one
  for WebSocket.
* `HttpForwarder.Exchanged`, `HttpForwarder.Failure`, `HttpForwarder.Waits`: how far a request comes
  that is taken up.

## Main results

* `HttpForwarder.acceptInbound_of_isAcceptable`, `HttpForwarder.acceptInbound_of_not_isAcceptable`:
  which opening handshakes of clients are taken up.
* `Hop.exchange_eq_ok_iff`, `Hop.exchange_eq_error_iff`, `Hop.exchange_eq_pending_iff`: what comes
  of sending a request.
* `Resolver.openHop_eq_ok_iff`, `Resolver.openHop_eq_error_iff`, `Resolver.openHop_eq_pending_iff`:
  when a hop is opened.
* `HttpForwarder.Failure.status_cases`: the status that goes with a failure.
* `HttpForwarder.failure_or_exchanged`: a request comes to a failure or to an answer, or waits.
-/

namespace Gatehouse

/-! ### Opening handshakes of clients -/

namespace HeaderValue

theorem encodeChar_of_isPlainByte {b : UInt8} (h : isPlainByte b = true) :
    Utf8.encodeChar (Char.ofNat b.toNat) = [b] := by
  have hlt : b.toNat < 0x80 := by
    simp only [isPlainByte, Bool.or_eq_true, Bool.and_eq_true, decide_eq_true_eq, beq_iff_eq] at h
    rcases h with ⟨-, h⟩ | rfl
    · exact Nat.lt_succ_of_lt (UInt8.lt_iff_toNat_lt.1 h)
    · decide
  have hvalid : b.toNat.isValidChar := Or.inl (by omega)
  have hchar : (Char.ofNat b.toNat).toNat = b.toNat := by
    rw [Char.ofNat, dif_pos hvalid]
    rfl
  simp only [Utf8.encodeChar, hchar, if_pos hlt, UInt8.ofNat_toNat]

/-- The bytes of the text of a value are the value. -/
theorem encode_of_text? {value : Bytes} {cs : List Char} (h : text? value = some cs) :
    Utf8.encode cs = value := by
  unfold text? at h
  split at h
  next hplain =>
    cases h
    induction value with
    | nil => rfl
    | cons b value ih =>
      rw [List.all_cons, Bool.and_eq_true] at hplain
      have htail := ih hplain.2
      unfold Utf8.encode at htail ⊢
      rw [List.map_cons, List.flatMap_cons, encodeChar_of_isPlainByte hplain.1, htail]
      rfl
  next => cases h

end HeaderValue

/-- The opening handshake of a client is taken up: its first version is the supported one, and it
has a key. -/
def Headers.IsAcceptable (h : Headers) : Prop :=
  h.first? "sec-websocket-version" = some (Bytes.ofText WebSocket.version) ∧
    ∃ key, h.first? "sec-websocket-key" = some key

theorem WebSocket.bind_text?_eq_version_iff (value : Option Bytes) :
    value.bind HeaderValue.text? = some WebSocket.version.toList ↔
      value = some (Bytes.ofText WebSocket.version) := by
  constructor
  · intro h
    obtain ⟨v, rfl, htext⟩ := Option.bind_eq_some_iff.1 h
    exact congrArg some (HeaderValue.encode_of_text? htext).symm
  · rintro rfl
    decide

namespace HttpForwarder

/-- An acceptable opening handshake is answered with the digest of its key. -/
theorem acceptInbound_of_isAcceptable {h : Headers} {key : Bytes}
    (hversion : h.first? "sec-websocket-version" = some (Bytes.ofText WebSocket.version))
    (hkey : h.first? "sec-websocket-key" = some key) :
    acceptInbound h = .ok (WebSocket.acceptValue key) := by
  have htext := (WebSocket.bind_text?_eq_version_iff _).2 hversion
  simp only [acceptInbound, htext, ne_eq, not_true_eq_false, if_false, hkey]

/-- Any other opening handshake is refused. -/
theorem acceptInbound_of_not_isAcceptable {h : Headers} (hbad : ¬ h.IsAcceptable) :
    ∃ text, acceptInbound h = .error (.upgradeFailure text) := by
  unfold acceptInbound
  dsimp only
  split
  next => exact ⟨_, rfl⟩
  next hversion =>
    split
    next => exact ⟨_, rfl⟩
    next key hkey =>
      have hversion := (WebSocket.bind_text?_eq_version_iff _).1 (Decidable.not_not.1 hversion)
      exact absurd ⟨hversion, key, hkey⟩ hbad

end HttpForwarder

/-! ### Exchanges -/

namespace Hop

variable {hop : Hop} {request : Request}

/-- A server that speaks TLS is not sent a plain request. -/
def IsMatched (hop : Hop) : Prop :=
  hop.server.tls.speaksTls = true → hop.session.isSome = true

/-- The server at the end of a hop replies to a request. -/
inductive Replies (hop : Hop) (request : Request) (reply : Reply) : Prop
  /-- It does not wait for the body. -/
  | early (hmatched : hop.IsMatched) (hreply : hop.server.early request.announced = some reply)
  /-- It has received the whole request. -/
  | whole {delivery : Delivery} (hmatched : hop.IsMatched)
      (hearly : hop.server.early request.announced = none)
      (hdeliver : request.deliver = some delivery)
      (hreply : hop.server.answer delivery = some reply)

/-- The server at the end of a hop answers a request: its reply is read as a response, with some
bytes behind its head. -/
def Answers (hop : Hop) (request : Request) (response : Response) (behind : Bytes) : Prop :=
  ∃ reply, hop.Replies request reply ∧
    Response.read request.method reply.bytes reply.ending? = .ok (response, behind)

/-- The server at the end of a hop never answers a request: the head of its reply is cut short, and
the connection stays open. -/
def Waits (hop : Hop) (request : Request) : Prop :=
  ∃ reply, hop.Replies request reply ∧
    Response.read request.method reply.bytes reply.ending? = .error .cutShort ∧
    reply.ending? = none

/-- What sending a request fails of. -/
inductive Fails (hop : Hop) (request : Request) : String → Prop
  | mismatched (hmatched : ¬ hop.IsMatched) : Fails hop request "invalid HTTP version parsed"
  /-- The body is shorter than it has been told, and the server waits for it. -/
  | unsendable (hmatched : hop.IsMatched) (hearly : hop.server.early request.announced = none)
      (hdeliver : request.deliver = none) : Fails hop request "error from user's Body stream"
  /-- The server closes the connection without receiving anything. -/
  | dropped {delivery : Delivery} (hmatched : hop.IsMatched)
      (hearly : hop.server.early request.announced = none)
      (hdeliver : request.deliver = some delivery) (hreply : hop.server.answer delivery = none) :
      Fails hop request "connection closed before message completed"
  /-- The reply is no response. -/
  | malformed {reply : Reply} {fault : ResponseFault} (hreplies : hop.Replies request reply)
      (hread : Response.read request.method reply.bytes reply.ending? =
        .error (.malformed fault)) : Fails hop request fault.message
  /-- The connection is closed before the head of the reply is complete. -/
  | closed {reply : Reply} (hreplies : hop.Replies request reply)
      (hread : Response.read request.method reply.bytes reply.ending? = .error .cutShort)
      (hending : reply.ending? = some .closed) :
      Fails hop request "connection closed before message completed"
  /-- The connection breaks off before the head of the reply is complete. -/
  | brokenOff {reply : Reply} (hreplies : hop.Replies request reply)
      (hread : Response.read request.method reply.bytes reply.ending? = .error .cutShort)
      (hending : reply.ending? = some .brokenOff) : Fails hop request "connection error"

theorem isMatched_iff :
    hop.IsMatched ↔ ¬ (hop.server.tls.speaksTls = true ∧ hop.session.isNone = true) := by
  cases hsession : hop.session <;> simp [IsMatched, hsession]

/-- What comes of a request that is replied to. -/
theorem Replies.exchange {reply : Reply} (h : hop.Replies request reply) :
    hop.exchange request = ⟨request.deliver, reply.response request.method⟩ := by
  cases h with
  | early hmatched hreply =>
    rw [Hop.exchange, if_neg (isMatched_iff.1 hmatched), hreply]
  | whole hmatched hearly hdeliver hreply =>
    rw [Hop.exchange, if_neg (isMatched_iff.1 hmatched), hearly, hdeliver]
    simp only [hreply]

theorem Answers.exchange {response : Response} {behind : Bytes}
    (h : hop.Answers request response behind) :
    hop.exchange request = ⟨request.deliver, .ok (response, behind)⟩ := by
  obtain ⟨reply, hreplies, hread⟩ := h
  simp only [hreplies.exchange, Reply.response, hread]

theorem Waits.exchange (h : hop.Waits request) :
    hop.exchange request = ⟨request.deliver, .pending⟩ := by
  obtain ⟨reply, hreplies, hread, hending⟩ := h
  rw [hending] at hread
  simp only [hreplies.exchange, Reply.response, hread, hending]

theorem Fails.exchange {text : String} (h : hop.Fails request text) :
    (hop.exchange request).result = .error (.handshakeFailure text) := by
  cases h with
  | mismatched hmatched =>
    rw [Hop.exchange, if_pos (Decidable.not_not.1 (mt isMatched_iff.2 hmatched))]
    rfl
  | unsendable hmatched hearly hdeliver =>
    simp only [Hop.exchange, if_neg (isMatched_iff.1 hmatched), hearly, hdeliver]
    rfl
  | dropped hmatched hearly hdeliver hreply =>
    simp only [Hop.exchange, if_neg (isMatched_iff.1 hmatched), hearly, hdeliver, hreply]
    rfl
  | malformed hreplies hread => simp only [hreplies.exchange, Reply.response, hread]
  | closed hreplies hread hending | brokenOff hreplies hread hending =>
    rw [hending] at hread
    simp only [hreplies.exchange, Reply.response, hread, hending]
    rfl

/-- A request is replied to, or sending it fails. -/
theorem replies_or_fails (hop : Hop) (request : Request) :
    (∃ reply, hop.Replies request reply) ∨ ∃ text, hop.Fails request text := by
  by_cases hmatched : hop.IsMatched
  · cases hearly : hop.server.early request.announced with
    | some reply => exact .inl ⟨reply, .early hmatched hearly⟩
    | none =>
      cases hdeliver : request.deliver with
      | none => exact .inr ⟨_, .unsendable hmatched hearly hdeliver⟩
      | some delivery =>
        cases hreply : hop.server.answer delivery with
        | none => exact .inr ⟨_, .dropped hmatched hearly hdeliver hreply⟩
        | some reply => exact .inl ⟨reply, .whole hmatched hearly hdeliver hreply⟩
  · exact .inr ⟨_, .mismatched hmatched⟩

/-- A request is answered, sending it fails, or the answer is waited for forever. -/
theorem answers_or_fails_or_waits (hop : Hop) (request : Request) :
    (∃ response behind, hop.Answers request response behind) ∨
      (∃ text, hop.Fails request text) ∨ hop.Waits request := by
  rcases hop.replies_or_fails request with ⟨reply, hreplies⟩ | hfails
  · cases hread : Response.read request.method reply.bytes reply.ending? with
    | ok answer => exact .inl ⟨answer.1, answer.2, reply, hreplies, hread⟩
    | error fault =>
      cases fault with
      | malformed fault => exact .inr (.inl ⟨_, .malformed hreplies hread⟩)
      | cutShort =>
        cases hending : reply.ending? with
        | none => exact .inr (.inr ⟨reply, hreplies, hread, hending⟩)
        | some ending =>
          cases ending with
          | closed => exact .inr (.inl ⟨_, .closed hreplies hread hending⟩)
          | brokenOff => exact .inr (.inl ⟨_, .brokenOff hreplies hread hending⟩)
  · exact .inr (.inl hfails)

theorem exchange_eq_ok_iff {response : Response} {behind : Bytes} :
    (hop.exchange request).result = .ok (response, behind) ↔
      hop.Answers request response behind := by
  refine ⟨fun h => ?_, fun h => by rw [h.exchange]⟩
  rcases hop.answers_or_fails_or_waits request with ⟨_, _, hanswers⟩ | ⟨_, hfails⟩ | hwaits
  · rw [hanswers.exchange] at h
    cases h
    exact hanswers
  · cases hfails.exchange.symm.trans h
  · rw [hwaits.exchange] at h
    cases h

theorem exchange_eq_error_iff {e : RouterError} :
    (hop.exchange request).result = .error e ↔
      ∃ text, e = .handshakeFailure text ∧ hop.Fails request text := by
  constructor
  · intro h
    rcases hop.answers_or_fails_or_waits request with ⟨_, _, hanswers⟩ | ⟨text, hfails⟩ | hwaits
    · rw [hanswers.exchange] at h
      cases h
    · cases hfails.exchange.symm.trans h
      exact ⟨text, rfl, hfails⟩
    · rw [hwaits.exchange] at h
      cases h
  · rintro ⟨text, rfl, hfails⟩
    exact hfails.exchange

theorem exchange_eq_pending_iff :
    (hop.exchange request).result = .pending ↔ hop.Waits request := by
  refine ⟨fun h => ?_, fun h => by rw [h.exchange]⟩
  rcases hop.answers_or_fails_or_waits request with ⟨_, _, hanswers⟩ | ⟨_, hfails⟩ | hwaits
  · rw [hanswers.exchange] at h
    cases h
  · cases hfails.exchange.symm.trans h
  · exact hwaits

end Hop

/-! ### The failures of each layer -/

namespace RouterError

/-- An error stands for a failure of the backend: it is answered as a bad gateway. -/
def IsBadGateway (e : RouterError) : Prop := e.status = Status.badGateway

end RouterError

/-- Connecting fails because a service has no process, or because the backend failed. -/
theorem Surroundings.Course.error_cases {σ τ : Type} {w : Surroundings σ τ} {s : σ} {target : Url}
    {draws : Draws} {x : Resolution τ} (h : w.Course s target draws x) {e : RouterError}
    (he : x.result = .error e) : e.IsBadGateway ∨ ∃ app service, e = .noInstances app service := by
  cases h with
  | tunnelled | resource | dialled | listPending | tunnelPending | resourcePending => cases he
  | empty =>
    cases he
    exact .inr ⟨_, _, rfl⟩
  | rejected | unlisted | untunnelled | noResource | hostless | portless | unreached =>
    cases he
    exact .inl rfl

theorem ServerName.isBadGateway_of_parse {host : String} {e : RouterError}
    (h : parse host = .error e) : e.IsBadGateway := by
  unfold parse at h
  split at h
  next => cases h
  next =>
    split at h
    next => cases h
    next =>
      cases h
      rfl

theorem TlsPeer.isBadGateway_of_begin {peer : TlsPeer} {client : TlsClient} {e : RouterError}
    (h : peer.begin client = .error e) : e.IsBadGateway := by
  unfold TlsPeer.begin at h
  cases peer with
  | plain | fails =>
    cases h
    rfl
  | silent => cases h
  | speaks server =>
    dsimp only at h
    split at h
    next =>
      cases h
      rfl
    next => cases h

theorem BackendServer.isBadGateway_of_secure {s : BackendServer} {security : HopSecurity}
    {e : RouterError} (h : s.secure security = .error e) : e.IsBadGateway := by
  unfold secure at h
  split at h
  next => cases h
  next =>
    split at h
    next hname =>
      cases h
      exact ServerName.isBadGateway_of_parse hname
    next => exact TlsPeer.isBadGateway_of_begin h

namespace Resolver

variable {τ : Type} {resolver : Resolver τ} {servers : BackendStream τ → BackendServer}
  {target : Url} {security : HopSecurity} {draws : Draws}

/-- A hop is opened by connecting and then securing the connection. -/
theorem openHop_eq_ok_iff {hop : Hop} :
    (resolver.openHop servers target security draws).result = .ok hop ↔
      ∃ stream, (resolver.connect target draws).result = .ok stream ∧
        (resolver.met servers stream).secure security = .ok hop.session ∧
        hop.server = resolver.met servers stream := by
  unfold Resolver.openHop Awaited.bind
  dsimp only
  cases hconnect : (resolver.connect target draws).result with
  | error e | pending => simp
  | ok stream =>
    cases hsecure : (resolver.met servers stream).secure security with
    | error e | pending => simp [hsecure]
    | ok session =>
      obtain ⟨server, session'⟩ := hop
      simp [hsecure, and_comm, eq_comm]

/-- A hop is not opened if connecting or securing the connection fails. -/
theorem openHop_eq_error_iff {e : RouterError} :
    (resolver.openHop servers target security draws).result = .error e ↔
      (resolver.connect target draws).result = .error e ∨
      ∃ stream, (resolver.connect target draws).result = .ok stream ∧
        (resolver.met servers stream).secure security = .error e := by
  unfold Resolver.openHop Awaited.bind
  dsimp only
  cases hconnect : (resolver.connect target draws).result with
  | error e | pending => simp
  | ok stream =>
    cases hsecure : (resolver.met servers stream).secure security <;> simp [hsecure]

/-- A hop is waited for forever if connecting or securing the connection is. -/
theorem openHop_eq_pending_iff :
    (resolver.openHop servers target security draws).result = .pending ↔
      (resolver.connect target draws).result = .pending ∨
      ∃ stream, (resolver.connect target draws).result = .ok stream ∧
        (resolver.met servers stream).secure security = .pending := by
  unfold Resolver.openHop Awaited.bind
  dsimp only
  cases hconnect : (resolver.connect target draws).result with
  | error e | pending => simp
  | ok stream =>
    cases hsecure : (resolver.met servers stream).secure security <;> simp [hsecure]

end Resolver

namespace HttpForwarder

/-- A response accepts the opening handshake under a key if it switches protocols and its first
answer is that to the key. -/
theorem checkAccepted_eq_ok_iff {key : Bytes} {response : Response} :
    checkAccepted key response = .ok () ↔ response.status = Status.switchingProtocols ∧
      response.headers.first? "sec-websocket-accept" = some (WebSocket.acceptValue key) := by
  unfold checkAccepted
  split
  next hstatus => simp [hstatus]
  next hstatus =>
    have hstatus := Decidable.not_not.1 hstatus
    split
    next haccept => simp [haccept]
    next haccept => simp [hstatus, Decidable.not_not.1 haccept]

/-- A response that does not switch protocols is refused. -/
theorem checkAccepted_of_status {key : Bytes} {response : Response}
    (hstatus : response.status ≠ Status.switchingProtocols) :
    checkAccepted key response =
      .error (.handshakeFailure ("backend answered " ++ Status.text response.status)) :=
  if_pos hstatus

/-- So is a response without the answer to the key. -/
theorem checkAccepted_of_accept {key : Bytes} {response : Response}
    (hstatus : response.status = Status.switchingProtocols)
    (haccept : response.headers.first? "sec-websocket-accept" ≠
      some (WebSocket.acceptValue key)) :
    checkAccepted key response =
      .error (.handshakeFailure "backend sent a bad Sec-WebSocket-Accept") := by
  rw [checkAccepted, if_neg (not_not_intro hstatus), if_pos haccept]

/-! ### Requests that are taken up -/

variable {τ : Type}

/-- How the hop for a request is secured. -/
def securityFor (f : HttpForwarder) (r : Request) : HopSecurity :=
  if asksForWebSocket r.method r.headers then f.webSocketSecurity else f.requestSecurity

/-- The request that is sent to the backend for a request. An opening handshake must have a target
that can be written. -/
def sent? (f : HttpForwarder) (forwarded : Forwarded) (key : Bytes) (r : Request) :
    Option Request :=
  if asksForWebSocket r.method r.headers then f.opening forwarded key r
  else some (f.outbound forwarded r)

/-- A hop to the backend is opened, a request is sent over it, and a response comes back, with some
bytes behind its head. -/
structure Exchanged (f : HttpForwarder) (resolver : Resolver τ)
    (servers : BackendStream τ → BackendServer) (draws : Draws) (key : Bytes)
    (forwarded : Forwarded) (r : Request) (hop : Hop) (request : Request) (response : Response)
    (early : Bytes) : Prop where
  opened : (resolver.openHop servers f.target (f.securityFor r) draws).result = .ok hop
  sent : f.sent? forwarded key r = some request
  answered : hop.Answers request response early

/-- What a request that is taken up may fail of, layer by layer. -/
inductive Failure (f : HttpForwarder) (resolver : Resolver τ)
    (servers : BackendStream τ → BackendServer) (draws : Draws) (key : Bytes)
    (forwarded : Forwarded) (r : Request) : RouterError → Prop
  /-- The backend cannot be connected to. -/
  | unreached {e : RouterError} (hconnect : (resolver.connect f.target draws).result = .error e) :
      Failure f resolver servers draws key forwarded r e
  /-- The hop cannot be secured. -/
  | unsecured {stream : BackendStream τ} {e : RouterError}
      (hconnect : (resolver.connect f.target draws).result = .ok stream)
      (hsecure : (resolver.met servers stream).secure (f.securityFor r) = .error e) :
      Failure f resolver servers draws key forwarded r e
  /-- The target of the opening handshake cannot be written. -/
  | unwritable {hop : Hop}
      (hopened : (resolver.openHop servers f.target (f.securityFor r) draws).result = .ok hop)
      (hsent : f.sent? forwarded key r = none) :
      Failure f resolver servers draws key forwarded r
        (.handshakeFailure (Uri.fault (f.director.pathAndQuery r.uri)).message)
  /-- The request cannot be sent, or is not answered. -/
  | unanswered {hop : Hop} {request : Request} {text : String}
      (hopened : (resolver.openHop servers f.target (f.securityFor r) draws).result = .ok hop)
      (hsent : f.sent? forwarded key r = some request) (hfails : hop.Fails request text) :
      Failure f resolver servers draws key forwarded r (.handshakeFailure text)
  /-- The response to an opening handshake does not switch protocols. -/
  | unswitched {hop : Hop} {request : Request} {response : Response} {early : Bytes}
      (hasks : asksForWebSocket r.method r.headers = true)
      (hexchanged : f.Exchanged resolver servers draws key forwarded r hop request response early)
      (hstatus : response.status ≠ Status.switchingProtocols) :
      Failure f resolver servers draws key forwarded r
        (.handshakeFailure ("backend answered " ++ Status.text response.status))
  /-- The response to an opening handshake does not answer its key. -/
  | unaccepted {hop : Hop} {request : Request} {response : Response} {early : Bytes}
      (hasks : asksForWebSocket r.method r.headers = true)
      (hexchanged : f.Exchanged resolver servers draws key forwarded r hop request response early)
      (hstatus : response.status = Status.switchingProtocols)
      (haccept : response.headers.first? "sec-websocket-accept" ≠
        some (WebSocket.acceptValue key)) :
      Failure f resolver servers draws key forwarded r
        (.handshakeFailure "backend sent a bad Sec-WebSocket-Accept")

/-- What a request that is taken up may wait for forever, layer by layer. -/
inductive Waits (f : HttpForwarder) (resolver : Resolver τ)
    (servers : BackendStream τ → BackendServer) (draws : Draws) (key : Bytes)
    (forwarded : Forwarded) (r : Request) : Prop
  /-- The rack says nothing. -/
  | forRack (hconnect : (resolver.connect f.target draws).result = .pending)
  /-- The backend says nothing in the handshake that begins a session. -/
  | forSession {stream : BackendStream τ}
      (hconnect : (resolver.connect f.target draws).result = .ok stream)
      (hsecure : (resolver.met servers stream).secure (f.securityFor r) = .pending)
  /-- The backend does not answer to the end of a head. -/
  | forAnswer {hop : Hop} {request : Request}
      (hopened : (resolver.openHop servers f.target (f.securityFor r) draws).result = .ok hop)
      (hsent : f.sent? forwarded key r = some request) (hwaits : hop.Waits request)

variable {f : HttpForwarder} {resolver : Resolver τ} {servers : BackendStream τ → BackendServer}
  {draws : Draws} {key : Bytes} {forwarded : Forwarded} {r : Request}

/-- A failure is answered as a service that is unavailable if connecting has found that it has no
process, and otherwise as a bad gateway. -/
theorem Failure.status_cases {e : RouterError}
    (h : f.Failure resolver servers draws key forwarded r e) :
    e.IsBadGateway ∨ ∃ app service, e = .noInstances app service ∧
      (resolver.connect f.target draws).result = .error e := by
  cases h with
  | unreached hconnect =>
    have hcourse := Surroundings.course_of_connect resolver.surroundings () f.target draws
    rcases hcourse.error_cases hconnect with hbad | ⟨app, name, rfl⟩
    · exact .inl hbad
    · exact .inr ⟨app, name, rfl, hconnect⟩
  | unsecured _ hsecure => exact .inl (BackendServer.isBadGateway_of_secure hsecure)
  | unwritable | unanswered | unswitched | unaccepted => exact .inl rfl

/-- A service without a process is found by connecting, and by nothing else. -/
theorem failure_noInstances_iff {app service : String} :
    f.Failure resolver servers draws key forwarded r (.noInstances app service) ↔
      (resolver.connect f.target draws).result = .error (.noInstances app service) := by
  constructor
  · intro h
    rcases h.status_cases with hbad | ⟨_, _, -, hconnect⟩
    · cases hbad
    · exact hconnect
  · exact .unreached

/-- A request comes to a failure or to a response, or waits forever. A response to an opening
handshake accepts it. -/
theorem failure_or_exchanged (f : HttpForwarder) (resolver : Resolver τ)
    (servers : BackendStream τ → BackendServer) (draws : Draws) (key : Bytes)
    (forwarded : Forwarded) (r : Request) :
    (∃ e, f.Failure resolver servers draws key forwarded r e) ∨
      (∃ hop request response early,
        f.Exchanged resolver servers draws key forwarded r hop request response early ∧
        (asksForWebSocket r.method r.headers = true →
          response.status = Status.switchingProtocols ∧
          response.headers.first? "sec-websocket-accept" = some (WebSocket.acceptValue key))) ∨
      f.Waits resolver servers draws key forwarded r := by
  cases hconnect : (resolver.connect f.target draws).result with
  | error e => exact .inl ⟨e, .unreached hconnect⟩
  | pending => exact .inr (.inr (.forRack hconnect))
  | ok stream =>
    cases hsecure : (resolver.met servers stream).secure (f.securityFor r) with
    | error e => exact .inl ⟨e, .unsecured hconnect hsecure⟩
    | pending => exact .inr (.inr (.forSession hconnect hsecure))
    | ok session =>
      let hop : Hop := ⟨resolver.met servers stream, session⟩
      have hopened : (resolver.openHop servers f.target (f.securityFor r) draws).result =
          .ok hop := Resolver.openHop_eq_ok_iff.2 ⟨stream, hconnect, hsecure, rfl⟩
      cases hsent : f.sent? forwarded key r with
      | none => exact .inl ⟨_, .unwritable hopened hsent⟩
      | some request =>
        rcases hop.answers_or_fails_or_waits request with
          ⟨response, early, hanswers⟩ | ⟨text, hfails⟩ | hwaits
        · have hexchanged : f.Exchanged resolver servers draws key forwarded r hop request response
            early := ⟨hopened, hsent, hanswers⟩
          by_cases hasks : asksForWebSocket r.method r.headers = true
          · by_cases hstatus : response.status = Status.switchingProtocols
            · by_cases haccept : response.headers.first? "sec-websocket-accept" =
                some (WebSocket.acceptValue key)
              · exact .inr (.inl ⟨_, _, _, _, hexchanged, fun _ => ⟨hstatus, haccept⟩⟩)
              · exact .inl ⟨_, .unaccepted hasks hexchanged hstatus haccept⟩
            · exact .inl ⟨_, .unswitched hasks hexchanged hstatus⟩
          · exact .inr (.inl ⟨_, _, _, _, hexchanged, fun h => absurd h hasks⟩)
        · exact .inl ⟨_, .unanswered hopened hsent hfails⟩
        · exact .inr (.inr (.forAnswer hopened hsent hwaits))

end HttpForwarder

end Gatehouse
