import Gatehouse.Forwarding.Hop
import Gatehouse.Http.Forwarded
import Gatehouse.Http.HeaderFilter
import Gatehouse.Http.Request
import Gatehouse.Pump.Basic
import Gatehouse.WebSocket.Key

/-!
# Forwarding requests

A plain request is sent to the backend with its path directed, freed of the fields that concern
one hop, and with the inbound hop added; the response comes back freed of such fields too. A
request for WebSocket leads to an opening handshake with the backend under a key of the router's
own, and the client is upgraded only when the backend has been. What fails is answered by the
router itself. As long as the rack or the backend says nothing, the client is told nothing either.

## Main definitions

* `HttpForwarder.outbound` : the request that is sent for a plain request.
* `WebSocket.acceptKey`, `HttpForwarder.handshakeHeaders`, `HttpForwarder.opening` : the opening
  handshake.
* `Handled`, `Handling` : what becomes of a request.
* `Handled.response?`, `Handling.pump?` : what the client is given, and what is started for it.
* `HttpForwarder.handle` : handling a request.
-/

namespace Gatehouse

/-! ### What becomes of a request -/

/-- What becomes of a request. -/
inductive Handled where
  /-- The router answers itself. -/
  | failed (cause : RouterError)
  /-- The response of the backend is passed on. -/
  | relayed (response : Response)
  /-- The client is upgraded. It is told the answer to its key; the backend has already sent some
  bytes behind its own handshake. -/
  | upgraded (accept early : Bytes)
  /-- The rack or the backend is waited for, and never says anything. -/
  | pending
  deriving DecidableEq, Repr

/-- The status that the router answers with itself. -/
def RouterError.status : RouterError → Nat
  | .noInstances .. => Status.serviceUnavailable
  | .upgradeFailure _ => Status.badRequest
  | _ => Status.badGateway

/-- The response that tells a client that it is upgraded. -/
def Response.switching (accept : Bytes) : Response where
  status := Status.switchingProtocols
  headers := ((Headers.empty.append "upgrade" (Bytes.ofText "websocket")).append "connection"
    (Bytes.ofText "Upgrade")).append "sec-websocket-accept" accept
  body := .complete []

/-- The response that the client is given, if it is given one. -/
def Handled.response? : Handled → Option Response
  | .failed cause => some (.ofStatus cause.status)
  | .relayed response => some response
  | .upgraded accept _ => some (.switching accept)
  | .pending => none

/-- The status of the response that the client is given, if it is given one. -/
def Handled.status? (x : Handled) : Option Nat := x.response?.map (·.status)

/-- What becomes of a request, and what happened for it. -/
structure Handling where
  outcome : Handled
  /-- The calls made, in order. -/
  calls : List BackendCall
  /-- How many random words were used. -/
  drawsUsed : Nat
  /-- What the backend received, if it received a request. -/
  delivery : Option Delivery
  /-- The TLS session with the backend, if there was one. -/
  session : Option TlsSession
  /-- Whether it counts as a failure of the backend. -/
  isBackendFailure : Bool
  /-- Whether a task has been started that waits for the connection of the client to be upgraded,
  and then pumps between the client and the backend. -/
  isBridged : Bool

/-- The pump between the client and the backend, if one is started, at the time `now`. A connection
is upgraded only if its request has been made in version 1.1 of the protocol; otherwise the task
that waits for it ends. -/
def Handling.pump? (x : Handling) (version : HttpVersion) (now : Nat) : Option Pump :=
  if x.isBridged ∧ version = .v11 then some (.start now) else none

namespace HttpForwarder

/-! ### Plain requests -/

/-- The fields with the host of an absolute target, unless they name one. -/
def withHost (uri : Uri) (h : Headers) : Headers :=
  if h.contains "host" ∨ uri.authority = "" then h
  else
    match HeaderValue.ofText? uri.authority with
    | some value => h.insert "host" value
    | none => h

/-- The target that is asked for when no other can be written. -/
def rootTarget : Uri := ⟨none, "", "/", none⟩

/-- The request that is sent for a plain request. -/
def outbound (f : HttpForwarder) (forwarded : Forwarded) (r : Request) : Request where
  method := r.method
  uri := (Uri.parse? (f.director.pathAndQuery r.uri)).getD rootTarget
  headers := forwarded.apply (HeaderFilter.hopByHop.strip (withHost r.uri r.headers))
  body := r.body
  version := .v11

/-- A request that has failed, or waits forever, before anything was sent. -/
def unsent (outcome : Handled) (calls : List BackendCall) (drawsUsed : Nat)
    (isBackendFailure : Bool) : Handling :=
  ⟨outcome, calls, drawsUsed, none, none, isBackendFailure, false⟩

variable {τ : Type}

/-- Handles a plain request. -/
def handlePlain (f : HttpForwarder) (resolver : Resolver τ)
    (servers : BackendStream τ → BackendServer) (draws : Draws) (forwarded : Forwarded)
    (r : Request) : Handling :=
  let attempt := resolver.openHop servers f.target f.requestSecurity draws
  match attempt.result with
  | .error e => unsent (.failed e) attempt.calls attempt.drawsUsed true
  | .pending => unsent .pending attempt.calls attempt.drawsUsed false
  | .ok hop =>
    let x := hop.exchange (f.outbound forwarded r)
    let done (outcome : Handled) (isBackendFailure : Bool) : Handling :=
      ⟨outcome, attempt.calls, attempt.drawsUsed, x.delivery, hop.session, isBackendFailure, false⟩
    match x.result with
    | .error e => done (.failed e) true
    | .pending => done .pending false
    | .ok (response, _) =>
      done (.relayed { response with
        headers := HeaderFilter.hopByHop.strip response.headers }) false

/-! ### Requests for WebSocket -/

/-- The answer to the key of a client, whose version must be the supported one. -/
def acceptInbound (h : Headers) : Except RouterError Bytes :=
  let version := (h.first? "sec-websocket-version").bind HeaderValue.text?
  if version ≠ some WebSocket.version.toList then
    .error (.upgradeFailure ("unsupported websocket version: " ++
      (version.map String.ofList).getD "none"))
  else
    match h.first? "sec-websocket-key" with
    | none => .error (.upgradeFailure "missing Sec-WebSocket-Key")
    | some key => .ok (WebSocket.acceptValue key)

/-- The fields that pass to the opening handshake with the backend, whose host is that of the
endpoint. -/
def handshakeHeaders (f : HttpForwarder) (forwarded : Forwarded) (h : Headers) : Headers :=
  let h := (HeaderFilter.webSocket.apply h).remove "host"
  let h := match HeaderValue.ofText? f.host with
    | some value => h.insert "host" value
    | none => h
  forwarded.apply h

/-- The fields of the opening handshake under a key. -/
def openingHeaders (key : Bytes) (h : Headers) : Headers :=
  (((h.insert "upgrade" (Bytes.ofText "websocket")).insert "connection"
    (Bytes.ofText "Upgrade")).insert "sec-websocket-version"
    (Bytes.ofText WebSocket.version)).insert "sec-websocket-key" key

/-- The opening handshake that is sent for a request, unless its target cannot be written. -/
def opening (f : HttpForwarder) (forwarded : Forwarded) (key : Bytes) (r : Request) :
    Option Request :=
  (Uri.parse? (f.director.pathAndQuery r.uri)).map fun uri =>
    ⟨"GET", uri, openingHeaders key (f.handshakeHeaders forwarded r.headers), .sized [], .v11⟩

/-- Whether a response accepts the opening handshake under a key. -/
def checkAccepted (key : Bytes) (response : Response) : Except RouterError Unit :=
  if response.status ≠ Status.switchingProtocols then
    .error (.handshakeFailure ("backend answered " ++ Status.text response.status))
  else if response.headers.first? "sec-websocket-accept" ≠ some (WebSocket.acceptValue key) then
    .error (.handshakeFailure "backend sent a bad Sec-WebSocket-Accept")
  else .ok ()

/-- Handles a request for WebSocket, with a fresh key for the handshake with the backend. -/
def handleWebSocket (f : HttpForwarder) (resolver : Resolver τ)
    (servers : BackendStream τ → BackendServer) (draws : Draws) (key : Bytes)
    (forwarded : Forwarded) (r : Request) : Handling :=
  match acceptInbound r.headers with
  | .error e => unsent (.failed e) [] 0 false
  | .ok accept =>
    let attempt := resolver.openHop servers f.target f.webSocketSecurity draws
    match attempt.result with
    | .error e => unsent (.failed e) attempt.calls attempt.drawsUsed false
    | .pending => unsent .pending attempt.calls attempt.drawsUsed false
    | .ok hop =>
      let done (outcome : Handled) (delivery : Option Delivery) (isBridged : Bool) : Handling :=
        ⟨outcome, attempt.calls, attempt.drawsUsed, delivery, hop.session, false, isBridged⟩
      match f.opening forwarded key r with
      | none =>
        let fault := Uri.fault (f.director.pathAndQuery r.uri)
        done (.failed (.handshakeFailure fault.message)) none false
      | some request =>
        let x := hop.exchange request
        match x.result with
        | .error e => done (.failed e) x.delivery false
        | .pending => done .pending x.delivery false
        | .ok (response, early) =>
          match checkAccepted key response with
          | .error e => done (.failed e) x.delivery false
          | .ok _ => done (.upgraded accept early) x.delivery true

/-! ### Both -/

/-- Handles a request of a client at an address, on a port of the listener. The key is used if the
request asks for WebSocket. -/
def handle (f : HttpForwarder) (resolver : Resolver τ)
    (servers : BackendStream τ → BackendServer) (draws : Draws) (key : Bytes)
    (peer : SocketAddress) (port : Nat) (r : Request) : Handling :=
  let forwarded : Forwarded := ⟨peer, port, f.listenScheme⟩
  if asksForWebSocket r.method r.headers then
    f.handleWebSocket resolver servers draws key forwarded r
  else f.handlePlain resolver servers draws forwarded r

end HttpForwarder

end Gatehouse
