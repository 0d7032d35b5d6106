import Gatehouse.Backend.Resolver
import Gatehouse.Forwarding.Http
import Gatehouse.Http.Outbound
import Gatehouse.Http.Reply

/-!
# The hop to a backend

A hop is opened anew for every request: the backend is connected to, and a TLS session is begun if
the hop is to be secured. One request and its response are exchanged over it. Neither the handshake
nor the response is waited for with a limit, so a backend that says nothing is waited for forever.
Only the relay in front of a tunnel may give up on it.

## Main definitions

* `TlsPeer`, `BackendServer` : what is met at the end of a connection.
* `BackendServer.relayed`, `Resolver.met` : what is met behind a relay, and at the end of the
  connections of a resolver.
* `Hop`, `HopAttempt`, `Resolver.openHop` : opening a hop.
* `Exchange`, `Hop.exchange` : sending a request and reading the response.
-/

namespace Gatehouse

/-! ### Backends -/

/-- What the first message of a TLS handshake meets with. -/
inductive TlsPeer where
  /-- An answer that is no TLS. -/
  | plain
  | speaks (server : TlsServer)
  /-- The handshake fails of something else than the certificate and the protocols. -/
  | fails (reason : String)
  /-- No answer ever. -/
  | silent
  deriving DecidableEq, Repr

/-- What is met at the end of a connection to a backend. -/
structure BackendServer where
  tls : TlsPeer
  /-- What it answers a request with without waiting for the body, if it does so: at once when the
  fields have been received. -/
  early : Delivery → Option Reply
  /-- What it answers a request with otherwise. It may also close the connection without receiving
  anything. -/
  answer : Delivery → Option Reply

/-- How a TLS handshake fails if the connection ends. -/
def handshakeEof : String := "tls handshake eof"

namespace TlsPeer

/-- Whether it is a TLS server. -/
def speaksTls : TlsPeer → Bool
  | .speaks _ => true
  | _ => false

/-- What is met behind a relay that lives for `limit`. -/
def relayed (limit : Option Nat) : TlsPeer → TlsPeer
  | .silent => if limit.isSome then .fails handshakeEof else .silent
  | peer => peer

end TlsPeer

/-- What is met behind a relay that lives for `limit`. A relay that gives its pipe up does not tell
so within a TLS session. -/
def BackendServer.relayed (limit : Option Nat) (s : BackendServer) : BackendServer :=
  let cut := if s.tls.speaksTls then ReplyEnd.brokenOff else .closed
  { tls := s.tls.relayed limit
    early := fun d => (s.early d).map (Reply.relayed cut limit)
    answer := fun d => (s.answer d).map (Reply.relayed cut limit) }

/-- What is met at the end of a connection of a resolver. Only a tunnel is relayed. -/
def Resolver.met {τ : Type} (r : Resolver τ) (servers : BackendStream τ → BackendServer)
    (stream : BackendStream τ) : BackendServer :=
  match stream with
  | .direct _ => servers stream
  | .tunnel _ => (servers stream).relayed r.idleTimeout

/-! ### Opening a hop -/

/-- An open hop. -/
structure Hop where
  server : BackendServer
  /-- The TLS session, if the hop is secured. -/
  session : Option TlsSession

/-- What comes of opening a hop. -/
structure HopAttempt where
  result : Awaited RouterError Hop
  /-- The calls made, in order. -/
  calls : List BackendCall
  /-- How many random words were used. -/
  drawsUsed : Nat

/-- What comes of the handshake of a client with what it meets. -/
def TlsPeer.begin (client : TlsClient) : TlsPeer → Awaited RouterError (Option TlsSession)
  | .plain => .error (.handshakeFailure "tls: received corrupt message of type InvalidContentType")
  | .speaks server =>
    match handshake client server with
    | .error e => .error (.handshakeFailure ("tls: " ++ e.message))
    | .ok session => .ok (some session)
  | .fails reason => .error (.handshakeFailure ("tls: " ++ reason))
  | .silent => .pending

/-- The session with a server, if the hop is to be secured. -/
def BackendServer.secure (s : BackendServer) :
    HopSecurity → Awaited RouterError (Option TlsSession)
  | .plain => .ok none
  | .tls trust name =>
    match ServerName.parse name with
    | .error e => .error e
    | .ok name => s.tls.begin (TlsClient.http trust name)

/-- Opens a hop to a target. -/
def Resolver.openHop {τ : Type} (r : Resolver τ) (servers : BackendStream τ → BackendServer)
    (target : Url) (security : HopSecurity) (draws : Draws) : HopAttempt :=
  let x := r.connect target draws
  let result := x.result.bind fun stream =>
    ((r.met servers stream).secure security).bind fun session =>
      .ok ⟨r.met servers stream, session⟩
  ⟨result, x.calls, x.drawsUsed⟩

/-! ### Exchanging a request -/

/-- What comes of sending a request. -/
structure Exchange where
  /-- What the backend received, if it received the whole request. -/
  delivery : Option Delivery
  /-- The response, and all bytes behind its head. -/
  result : Awaited RouterError (Response × Bytes)

/-- The request could not be delivered, or the backend did not answer it. -/
def Exchange.failed (delivery : Option Delivery) (text : String) : Exchange :=
  ⟨delivery, .error (.handshakeFailure text)⟩

/-- How a response fails to come if the connection ends. -/
def ReplyEnd.message : ReplyEnd → String
  | .closed => "connection closed before message completed"
  | .brokenOff => "connection error"

/-- The response in a reply to a request of some method, and all bytes behind its head. -/
def Reply.response (method : String) (reply : Reply) : Awaited RouterError (Response × Bytes) :=
  match Response.read method reply.bytes reply.ending? with
  | .ok answer => .ok answer
  | .error (.malformed fault) => .error (.handshakeFailure fault.message)
  | .error .cutShort =>
    match reply.ending? with
    | some ending => .error (.handshakeFailure ending.message)
    | none => .pending

/-- Sends a request and reads the response. A TLS server that is sent a plain request answers with
bytes that are no response. -/
def Hop.exchange (hop : Hop) (request : Request) : Exchange :=
  if hop.server.tls.speaksTls ∧ hop.session.isNone then
    .failed none ResponseFault.version.message
  else
    match hop.server.early request.announced with
    | some reply => ⟨request.deliver, reply.response request.method⟩
    | none =>
      match request.deliver with
      | none => .failed none "error from user's Body stream"
      | some delivery =>
        match hop.server.answer delivery with
        | none => .failed none ReplyEnd.closed.message
        | some reply => ⟨some delivery, reply.response request.method⟩

end Gatehouse
