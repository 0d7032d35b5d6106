import Gatehouse.Proofs.Forwarding.Traffic
import Gatehouse.Proofs.Forwarding.Upgrade

/-!
# How hops are secured

For a direct target, plain requests and requests for WebSocket are both sent over TLS or both not,
to a server of the same name. They differ in whom they trust: a plain request is sent only to a
server that the public authorities stand for, while one for WebSocket is sent to a server with any
certificate, as in the rack.

## Main definitions

* `HopSecurity.server?` : the name of the server that is to be reached over TLS.
* `HopSecurity.TrustsAnyone` : certificates do not matter.
* `Url.serverName` : the name of the server that a target and a host stand for.
* `BackendServer.presenting` : a server with another certificate.

## Main results

* `BackendServer.exists_session_iff` : what it takes to begin a session.
* `HttpForwarder.handle_presenting` : who trusts anyone treats all certificates alike.
* `HttpForwarder.securityFor_of_create` : how the hop for a request is secured.
* `HttpForwarder.exists_session_iff` : which servers sessions are begun with.
* `HttpForwarder.security_of_target` : how the hops to a target are secured.
* `HttpForwarder.session_of_public_chatServer` : a server that plain requests are sent to.
* `HttpForwarder.upgraded_and_refused` : the two kinds of requests to one server.
-/

namespace Gatehouse

/-! ### Settings -/

namespace HopSecurity

/-- The name of the server that is to be reached over TLS. -/
def server? : HopSecurity → Option String
  | .plain => none
  | .tls _ server => some server

/-- Certificates do not matter: there are none, or any will do. -/
def TrustsAnyone : HopSecurity → Prop
  | .plain => True
  | .tls trust _ => trust = .anyone

end HopSecurity

/-- The name of the server that a target stands for. In the rack it is the host of the endpoint, and
otherwise that of the target, if it has one. -/
def Url.serverName (target : Url) (host : String) : String :=
  if target.isRackTarget then host else target.hostText.getD host

namespace HopSecurity

theorem forRequests_eq (target : Url) (host : String) :
    forRequests target host =
      if asksForTls target.scheme then
        .tls (if target.isRackTarget then .anyone else .publicAuthorities) (target.serverName host)
      else .plain := by
  unfold forRequests Url.serverName
  cases asksForTls target.scheme <;> cases target.isRackTarget <;> rfl

theorem forWebSocket_eq (target : Url) (host : String) :
    forWebSocket target host =
      if asksForTls target.scheme || target.isRackTarget then
        .tls .anyone (target.serverName host)
      else .plain := by
  unfold forWebSocket Url.serverName
  cases asksForTls target.scheme <;> cases target.isRackTarget <;> rfl

end HopSecurity

/-- The settings that there are for a listen URL, a target and a host. -/
theorem HttpForwarder.eq_mk_of_create {listen target : Url} {host : String} {f : HttpForwarder}
    (h : create listen target host = .ok f) :
    f = ⟨listen.scheme, target, host, .ofTarget target, .forRequests target host,
      .forWebSocket target host⟩ := by
  unfold create at h
  dsimp only at h
  split at h
  next =>
    split at h
    next => cases h
    next => exact (Except.ok.inj h).symm
  next => exact (Except.ok.inj h).symm

/-- How the settings for a target secure its hops. -/
theorem HttpForwarder.eq_of_create {listen target : Url} {host : String} {f : HttpForwarder}
    (h : create listen target host = .ok f) :
    f.target = target ∧ f.requestSecurity = .forRequests target host ∧
      f.webSocketSecurity = .forWebSocket target host := by
  obtain rfl := eq_mk_of_create h
  exact ⟨rfl, rfl, rfl⟩

/-- There are settings for every direct target. -/
theorem HttpForwarder.exists_create {listen target : Url} {host : String}
    (hdirect : target.isRackTarget = false) : ∃ f, create listen target host = .ok f := by
  unfold create
  dsimp only
  rw [if_neg (by simp [hdirect])]
  exact ⟨_, rfl⟩

/-! ### Sessions -/

/-- A client accepts a certificate if someone whom it trusts stands for it, and if it is for the
server; a client that trusts anyone accepts all of them. -/
theorem TlsClient.verify_eq_ok_iff {client : TlsClient} {c : Certificate} :
    client.verify c = .ok () ↔
      client.trust.fault? c = none ∧ (client.trust = .anyone ∨ c.covers client.name = true) := by
  unfold verify
  cases client.trust.fault? c with
  | some fault => simp
  | none =>
    dsimp only
    split
    next h => simp [h]
    next h => simp [h]

/-- The client of the router agrees with a server that does not care for protocols, or that speaks
HTTP/1.1. -/
theorem exists_agreeOnProtocol_iff {protocols : List String} :
    (∃ p, agreeOnProtocol ["http/1.1"] protocols = .ok p) ↔
      protocols = [] ∨ "http/1.1" ∈ protocols := by
  unfold agreeOnProtocol
  by_cases hnone : protocols = []
  · simp [hnone]
  · rw [if_neg (by simp [hnone])]
    cases hfind : protocols.find? ["http/1.1"].contains with
    | none =>
      have hother := List.find?_eq_none.1 hfind
      simp only [hnone, false_or]
      refine iff_of_false (fun ⟨p, hp⟩ => by cases hp) fun hmem => ?_
      exact hother _ hmem (by decide)
    | some p =>
      obtain rfl : p = "http/1.1" := by simpa using List.find?_some hfind
      exact iff_of_true ⟨_, rfl⟩ (.inr (List.mem_of_find?_eq_some hfind))

/-- A handshake leads to a session if the two sides agree and the certificate is accepted. -/
theorem handshake_eq_ok_iff {client : TlsClient} {server : TlsServer} {session : TlsSession} :
    handshake client server = .ok session ↔
      (∃ p, agreeOnProtocol client.protocols server.protocols = .ok p ∧
        session = ⟨p, server.version, client.name.sni⟩) ∧
      client.verify server.certificate = .ok () := by
  unfold handshake
  cases agreeOnProtocol client.protocols server.protocols with
  | error e => simp
  | ok p =>
    cases client.verify server.certificate with
    | error e => simp
    | ok _ => simp [eq_comm]

theorem TlsPeer.begin_eq_ok_iff {peer : TlsPeer} {client : TlsClient} {session : TlsSession} :
    peer.begin client = .ok (some session) ↔
      ∃ server, peer = .speaks server ∧ handshake client server = .ok session := by
  cases peer with
  | plain | fails | silent => simp [TlsPeer.begin]
  | speaks server =>
    simp only [TlsPeer.begin, TlsPeer.speaks.injEq, exists_eq_left']
    cases handshake client server <;> simp

namespace BackendServer

/-- What it takes to begin a session: a name that can be parsed, a server that agrees on the
protocol, and a certificate that is accepted. -/
theorem secure_eq_ok_iff {s : BackendServer} {trust : Trust} {server : String}
    {session : TlsSession} :
    s.secure (.tls trust server) = .ok (some session) ↔
      ∃ name tls, ServerName.parse server = .ok name ∧ s.tls = .speaks tls ∧
        (∃ p, agreeOnProtocol ["http/1.1"] tls.protocols = .ok p ∧
          session = ⟨p, tls.version, name.sni⟩) ∧
        trust.fault? tls.certificate = none ∧
        (trust = .anyone ∨ tls.certificate.covers name = true) := by
  unfold secure
  dsimp only
  cases hname : ServerName.parse server with
  | error e => simp
  | ok name =>
    simp only [TlsPeer.begin_eq_ok_iff, handshake_eq_ok_iff, TlsClient.verify_eq_ok_iff,
      TlsClient.http, Except.ok.injEq]
    constructor
    · rintro ⟨tls, htls, hbegun⟩
      exact ⟨name, tls, rfl, htls, hbegun⟩
    · rintro ⟨_, tls, rfl, htls, hbegun⟩
      exact ⟨tls, htls, hbegun⟩

theorem exists_session_iff {s : BackendServer} {trust : Trust} {server : String} :
    (∃ session, s.secure (.tls trust server) = .ok (some session)) ↔
      ∃ name tls, ServerName.parse server = .ok name ∧ s.tls = .speaks tls ∧
        (tls.protocols = [] ∨ "http/1.1" ∈ tls.protocols) ∧
        trust.fault? tls.certificate = none ∧
        (trust = .anyone ∨ tls.certificate.covers name = true) := by
  simp only [secure_eq_ok_iff]
  constructor
  · rintro ⟨_, name, tls, hname, htls, ⟨p, hp, -⟩, hfault, hcovers⟩
    exact ⟨name, tls, hname, htls, exists_agreeOnProtocol_iff.1 ⟨p, hp⟩, hfault, hcovers⟩
  · rintro ⟨name, tls, hname, htls, hagree, hfault, hcovers⟩
    obtain ⟨p, hp⟩ := exists_agreeOnProtocol_iff.2 hagree
    exact ⟨_, name, tls, hname, htls, ⟨p, hp, rfl⟩, hfault, hcovers⟩

/-- A session is told the name of the server that is to be reached. -/
theorem exists_name_of_secure {s : BackendServer} {security : HopSecurity} {session : TlsSession}
    (h : s.secure security = .ok (some session)) :
    ∃ trust server name, security = .tls trust server ∧ ServerName.parse server = .ok name ∧
      session.sni = name.sni := by
  cases security with
  | plain => cases h
  | tls trust server =>
    obtain ⟨name, tls, hname, -, ⟨p, -, rfl⟩, -⟩ := secure_eq_ok_iff.1 h
    exact ⟨trust, server, name, rfl, hname, rfl⟩

/-- A server with another certificate. -/
def presenting (s : BackendServer) (c : Certificate) : BackendServer :=
  { s with tls := match s.tls with
    | .speaks tls => .speaks { tls with certificate := c }
    | peer => peer }

/-- Who trusts anyone begins the same session whatever certificate is presented. -/
theorem secure_presenting {security : HopSecurity} (h : security.TrustsAnyone) (s : BackendServer)
    (c : Certificate) : (s.presenting c).secure security = s.secure security := by
  cases security with
  | plain => rfl
  | tls trust server =>
    obtain rfl : trust = .anyone := h
    unfold secure presenting
    cases s.tls <;> rfl

/-- The certificate of a server does not matter once the hop is open. -/
theorem exchange_presenting (s : BackendServer) (c : Certificate) (session : Option TlsSession)
    (request : Request) :
    Hop.exchange ⟨s.presenting c, session⟩ request = Hop.exchange ⟨s, session⟩ request := by
  have hspeaks : (s.presenting c).tls.speaksTls = s.tls.speaksTls := by
    unfold presenting
    cases s.tls <;> rfl
  simp only [Hop.exchange, hspeaks]
  rfl

/-- A relay does not change the certificate of a server. -/
theorem relayed_presenting (s : BackendServer) (c : Certificate) (limit : Option Nat) :
    (s.presenting c).relayed limit = (s.relayed limit).presenting c := by
  unfold relayed presenting
  cases s.tls with
  | plain | speaks | fails => rfl
  | silent => cases limit <;> rfl

end BackendServer

namespace Resolver

variable {τ : Type} (resolver : Resolver τ) (servers : BackendStream τ → BackendServer)

theorem met_presenting (certificates : BackendStream τ → Certificate) (stream : BackendStream τ) :
    resolver.met (fun stream => (servers stream).presenting (certificates stream)) stream =
      (resolver.met servers stream).presenting (certificates stream) := by
  cases stream with
  | direct => rfl
  | tunnel => exact BackendServer.relayed_presenting ..

/-- A TLS server is met as one, behind a relay as well. -/
theorem tls_met_eq_speaks_iff (stream : BackendStream τ) (tls : TlsServer) :
    (resolver.met servers stream).tls = .speaks tls ↔ (servers stream).tls = .speaks tls := by
  cases stream with
  | direct => rfl
  | tunnel t =>
    show ((servers (.tunnel t)).tls.relayed resolver.idleTimeout) = .speaks tls ↔ _
    cases (servers (.tunnel t)).tls with
    | plain | speaks | fails => rfl
    | silent => cases resolver.idleTimeout <;> simp [TlsPeer.relayed]

end Resolver

/-! ### Requests -/

namespace HttpForwarder

variable {τ : Type}

/-- A request whose hop trusts anyone is handled in the same way whatever certificates the servers
present. -/
theorem handle_presenting {f : HttpForwarder} {r : Request} (h : (f.securityFor r).TrustsAnyone)
    (certificates : BackendStream τ → Certificate) (resolver : Resolver τ)
    (servers : BackendStream τ → BackendServer) (draws : Draws) (key : Bytes)
    (peer : SocketAddress) (port : Nat) :
    f.handle resolver (fun stream => (servers stream).presenting (certificates stream)) draws key
        peer port r =
      f.handle resolver servers draws key peer port r := by
  unfold securityFor at h
  cases hasks : asksForWebSocket r.method r.headers with
  | true =>
    rw [hasks, if_pos rfl] at h
    simp only [handle, hasks, if_true, handleWebSocket, Resolver.openHop, Resolver.met_presenting,
      BackendServer.secure_presenting h]
    cases (resolver.connect f.target draws).result with
    | error e | pending => rfl
    | ok stream =>
      simp only [Awaited.bind]
      cases (resolver.met servers stream).secure f.webSocketSecurity with
      | error e | pending => rfl
      | ok session => simp only [BackendServer.exchange_presenting]
  | false =>
    rw [hasks, if_neg Bool.false_ne_true] at h
    simp only [handle, hasks, Bool.false_eq_true, if_false, handlePlain, Resolver.openHop,
      Resolver.met_presenting, BackendServer.secure_presenting h]
    cases (resolver.connect f.target draws).result with
    | error e | pending => rfl
    | ok stream =>
      simp only [Awaited.bind]
      cases (resolver.met servers stream).secure f.requestSecurity with
      | error e | pending => rfl
      | ok session => simp only [BackendServer.exchange_presenting]

/-- The session of a request is that of its hop. -/
theorem session_of_opened {f : HttpForwarder} {resolver : Resolver τ}
    {servers : BackendStream τ → BackendServer} {draws : Draws} {key : Bytes} {peer : SocketAddress}
    {port : Nat} {r : Request} {hop : Hop} (htaken : ¬ r.IsRefused)
    (hopened : (resolver.openHop servers f.target (f.securityFor r) draws).result = .ok hop) :
    (f.handle resolver servers draws key peer port r).session = hop.session := by
  cases hasks : asksForWebSocket r.method r.headers with
  | true =>
    obtain ⟨_, -, haccept⟩ := acceptInbound_of_taken hasks htaken
    simp only [securityFor, hasks, if_true] at hopened
    simp only [handle, hasks, if_true, handleWebSocket, haccept, hopened]
    split
    next => rfl
    next =>
      split
      next => rfl
      next => rfl
      next => split <;> rfl
  | false =>
    simp only [securityFor, hasks, Bool.false_eq_true, if_false] at hopened
    simp only [handle, hasks, Bool.false_eq_true, if_false, handlePlain, hopened]
    split <;> rfl

section Create

variable {listen target : Url} {host : String} {f : HttpForwarder} {resolver : Resolver τ}
  {servers : BackendStream τ → BackendServer} {draws : Draws} {key : Bytes} {peer : SocketAddress}
  {port : Nat} {r : Request}

/-- How the hop for a request is secured: over TLS if the target asks for it, and for WebSocket
always in the rack; towards a server of the same name; trusting anyone in the rack and for
WebSocket. -/
theorem securityFor_of_create (h : create listen target host = .ok f) (r : Request) :
    f.securityFor r =
      let asks := asksForWebSocket r.method r.headers
      if asksForTls target.scheme || (target.isRackTarget && asks) then
        .tls (if target.isRackTarget || asks then .anyone else .publicAuthorities)
          (target.serverName host)
      else .plain := by
  obtain ⟨-, hrequests, hwebSocket⟩ := eq_of_create h
  unfold securityFor
  rw [hrequests, hwebSocket, HopSecurity.forRequests_eq, HopSecurity.forWebSocket_eq]
  cases asksForWebSocket r.method r.headers <;> simp

/-- What is sent to a target is sent in a session just if its hop is to be secured. -/
theorem isSome_session_of_delivery (h : create listen target host = .ok f)
    {delivery : Delivery}
    (hdelivery : (f.handle resolver servers draws key peer port r).delivery = some delivery) :
    (f.handle resolver servers draws key peer port r).session.isSome =
      (asksForTls target.scheme ||
        (target.isRackTarget && asksForWebSocket r.method r.headers)) := by
  have htraffic := traffic_of_handle f resolver servers draws key peer port r
  rw [hdelivery] at htraffic
  obtain ⟨stream, -, hsecure, -⟩ := htraffic.exists_sent
  rw [Bool.eq_iff_iff, BackendServer.isSome_of_secure hsecure, securityFor_of_create h r]
  dsimp only
  split
  next hsecured => simp [hsecured]
  next hsecured => simpa using hsecured

/-- A session is told the name that the target stands for. -/
theorem exists_name_of_session (h : create listen target host = .ok f)
    {session : TlsSession}
    (hsession : (f.handle resolver servers draws key peer port r).session = some session) :
    ∃ name, ServerName.parse (target.serverName host) = .ok name ∧ session.sni = name.sni := by
  have htraffic := traffic_of_handle f resolver servers draws key peer port r
  rw [hsession] at htraffic
  obtain ⟨stream, -, hsecure⟩ := htraffic.exists_secured
  obtain ⟨trust, server, name, htls, hname, hsni⟩ := BackendServer.exists_name_of_secure hsecure
  rw [securityFor_of_create h r] at htls
  dsimp only at htls
  split at htls
  next =>
    cases htls
    exact ⟨name, hname, hsni⟩
  next => cases htls

/-- A session is begun for a request that is taken up and whose hop is to be secured, just if a
server that speaks HTTP/1.1 is reached, the name that the target stands for can be parsed, and the
certificate is accepted. The certificate does not matter in the rack and for WebSocket; otherwise it
is one for that name that the public authorities stand for. -/
theorem exists_session_iff (h : create listen target host = .ok f) (htaken : ¬ r.IsRefused)
    (hsecured : (asksForTls target.scheme ||
      (target.isRackTarget && asksForWebSocket r.method r.headers)) = true) :
    (∃ session, (f.handle resolver servers draws key peer port r).session = some session) ↔
      ∃ stream tls name, (resolver.connect target draws).result = .ok stream ∧
        (servers stream).tls = .speaks tls ∧
        ServerName.parse (target.serverName host) = .ok name ∧
        (tls.protocols = [] ∨ "http/1.1" ∈ tls.protocols) ∧
        (target.isRackTarget = false → asksForWebSocket r.method r.headers = false →
          tls.certificate.publicFault = none ∧ tls.certificate.covers name = true) := by
  have hsecurity := securityFor_of_create h r
  dsimp only at hsecurity
  rw [if_pos hsecured] at hsecurity
  -- Whom the hop trusts, told as what is asked of a certificate.
  have htrust (c : Certificate) (name : ServerName) :
      (Trust.fault? (if target.isRackTarget || asksForWebSocket r.method r.headers then .anyone
          else .publicAuthorities) c = none ∧
        ((if target.isRackTarget || asksForWebSocket r.method r.headers then Trust.anyone
          else .publicAuthorities) = .anyone ∨ c.covers name = true)) ↔
      (target.isRackTarget = false → asksForWebSocket r.method r.headers = false →
        c.publicFault = none ∧ c.covers name = true) := by
    cases target.isRackTarget <;> cases asksForWebSocket r.method r.headers <;>
      simp [Trust.fault?]
  have htarget := (eq_of_create h).1
  constructor
  · rintro ⟨session, hsession⟩
    have htraffic := traffic_of_handle f resolver servers draws key peer port r
    rw [hsession] at htraffic
    obtain ⟨stream, hconnect, hsecure⟩ := htraffic.exists_secured
    rw [hsecurity] at hsecure
    obtain ⟨name, tls, hname, htls, hagree, haccepted⟩ :=
      BackendServer.exists_session_iff.1 ⟨session, hsecure⟩
    exact ⟨stream, tls, name, htarget ▸ hconnect,
      (resolver.tls_met_eq_speaks_iff servers stream tls).1 htls, hname, hagree,
      (htrust tls.certificate name).1 haccepted⟩
  · rintro ⟨stream, tls, name, hconnect, htls, hname, hagree, haccepted⟩
    obtain ⟨session, hsecure⟩ := BackendServer.exists_session_iff.2
      ⟨name, tls, hname, (resolver.tls_met_eq_speaks_iff servers stream tls).2 htls, hagree,
        (htrust tls.certificate name).2 haccepted⟩
    rw [← hsecurity] at hsecure
    have hopened : (resolver.openHop servers f.target (f.securityFor r) draws).result =
        .ok ⟨resolver.met servers stream, some session⟩ :=
      Resolver.openHop_eq_ok_iff.2 ⟨stream, htarget ▸ hconnect, hsecure, rfl⟩
    exact ⟨session, session_of_opened htaken hopened⟩

/-- In the rack and for WebSocket, certificates do not matter. -/
theorem trustsAnyone_of_create (h : create listen target host = .ok f)
    (hanyone : target.isRackTarget = true ∨ asksForWebSocket r.method r.headers = true) :
    (f.securityFor r).TrustsAnyone := by
  rw [securityFor_of_create h r]
  dsimp only
  split
  next =>
    have htrust : (target.isRackTarget || asksForWebSocket r.method r.headers) = true :=
      Bool.or_eq_true_iff.2 hanyone
    rw [if_pos htrust]
    rfl
  next => trivial

/-- How the hops to a target are secured, for all requests that are ever made over them.

There are settings for every direct target, and the two kinds of requests to it are to be sent to a
server of the same name over TLS, or both not over TLS. The settings are the same only if the target
does not ask for TLS.

What is sent to a target is sent in a session just if the target asks for TLS, or is in the rack and
the request is for WebSocket. The server is told the name that the target stands for. A session is
begun just with a server that speaks HTTP/1.1, and for a plain request to a direct target just with
one whose certificate is for that name and is one that the public authorities stand for. But
requests to the rack, and those for WebSocket to any target, are handled in the same way whatever
certificates are presented. -/
theorem security_of_target (listen target : Url) (host : String) :
    (target.isRackTarget = false → ∃ f, create listen target host = .ok f) ∧
    ∀ f, create listen target host = .ok f →
      (target.isRackTarget = false →
        f.requestSecurity.server? = f.webSocketSecurity.server? ∧
        (f.requestSecurity = f.webSocketSecurity ↔ asksForTls target.scheme = false)) ∧
      ∀ {τ : Type} (resolver : Resolver τ) (servers : BackendStream τ → BackendServer)
        (draws : Draws) (key : Bytes) (peer : SocketAddress) (port : Nat) (r : Request),
        let asks := asksForWebSocket r.method r.headers
        let secured := asksForTls target.scheme || (target.isRackTarget && asks)
        let handling := f.handle resolver servers draws key peer port r
        (∀ delivery, handling.delivery = some delivery → handling.session.isSome = secured) ∧
        (∀ session, handling.session = some session → ∃ name,
          ServerName.parse (target.serverName host) = .ok name ∧ session.sni = name.sni) ∧
        (secured = true → ¬ r.IsRefused →
          ((∃ session, handling.session = some session) ↔ ∃ stream tls name,
            (resolver.connect target draws).result = .ok stream ∧
            (servers stream).tls = .speaks tls ∧
            ServerName.parse (target.serverName host) = .ok name ∧
            (tls.protocols = [] ∨ "http/1.1" ∈ tls.protocols) ∧
            (target.isRackTarget = false → asks = false →
              tls.certificate.publicFault = none ∧ tls.certificate.covers name = true))) ∧
        (target.isRackTarget = true ∨ asks = true →
          ∀ certificates : BackendStream τ → Certificate,
            f.handle resolver (fun stream => (servers stream).presenting (certificates stream))
              draws key peer port r = handling) := by
  refine ⟨exists_create, fun f h => ⟨fun hdirect => ?_, ?_⟩⟩
  · obtain ⟨-, hrequests, hwebSocket⟩ := eq_of_create h
    rw [hrequests, hwebSocket, HopSecurity.forRequests_eq, HopSecurity.forWebSocket_eq, hdirect]
    cases asksForTls target.scheme <;> simp [HopSecurity.server?]
  · intro τ resolver servers draws key peer port r asks secured handling
    exact ⟨fun delivery => isSome_session_of_delivery h,
      fun session => exists_name_of_session h,
      fun hsecured htaken => exists_session_iff h htaken hsecured,
      fun hanyone certificates => handle_presenting (trustsAnyone_of_create h hanyone) certificates
        resolver servers draws key peer port⟩

end Create

/-- A server outside the rack that is to be reached over TLS. -/
def chatUpstream : Url :=
  ⟨"https", some ⟨"", none, some (.name "chat.test"), none⟩, "/", none, none⟩

/-- The settings for it. -/
def chatUpstreamForwarder : HttpForwarder where
  listenScheme := "http"
  target := chatUpstream
  host := "a.test"
  director := .direct "/" none
  requestSecurity := .tls .publicAuthorities "chat.test"
  webSocketSecurity := .tls .anyone "chat.test"

/-- The chat server with a certificate of its own name that the public authorities stand for. -/
def publicChatServer : BackendServer :=
  { chatServer with tls := .speaks ⟨⟨"chat.test", "public authority", 0, none⟩, [], .v13⟩ }

/-- A plain request is sent to a server that the public authorities stand for. -/
theorem session_of_public_chatServer :
    create ⟨"http", none, "", none, none⟩ chatUpstream "a.test" = .ok chatUpstreamForwarder ∧
    ∃ session, (chatUpstreamForwarder.handle directResolver (fun _ => publicChatServer)
      (fun _ => 0) chatKey ⟨.v4 ⟨10, 0, 0, 7⟩, 51234⟩ 80 plainRequest).session = some session := by
  have hcreate : create ⟨"http", none, "", none, none⟩ chatUpstream "a.test" =
      .ok chatUpstreamForwarder := rfl
  have htaken : ¬ plainRequest.IsRefused := fun hrefused => absurd hrefused.1 (by decide)
  obtain ⟨-, -, hsession, -⟩ := ((security_of_target _ _ _).2 _ hcreate).2 directResolver
    (fun _ => publicChatServer) (fun _ => 0) chatKey ⟨.v4 ⟨10, 0, 0, 7⟩, 51234⟩ 80 plainRequest
  exact ⟨hcreate, (hsession (by decide) htaken).2
    ⟨.direct ⟨.v4 ⟨10, 0, 0, 9⟩, 443⟩, ⟨⟨"chat.test", "public authority", 0, none⟩, [], .v13⟩,
      .dns "chat.test", by decide +kernel, rfl, rfl, .inl rfl, fun _ _ => ⟨rfl, by decide⟩⟩⟩

/-- A server with a bad certificate is refused for a plain request, but an opening handshake is
sent to it, and the client is upgraded. -/
theorem upgraded_and_refused :
    create ⟨"http", none, "", none, none⟩ chatUpstream "a.test" = .ok chatUpstreamForwarder ∧
    chatUpstream.isRackTarget = false ∧
    (TlsClient.http .publicAuthorities (.dns "chat.test")).verify unknownCertificate =
      .error (.unvouched "UnknownIssuer") ∧
    (let refused := chatUpstreamForwarder.handle directResolver (fun _ => chatServer)
      (fun _ => 0) chatKey ⟨.v4 ⟨10, 0, 0, 7⟩, 51234⟩ 80 plainRequest
    refused.outcome = .failed (.handshakeFailure "tls: invalid peer certificate: UnknownIssuer") ∧
      refused.session = none ∧ refused.delivery = none) ∧
    let upgraded := chatUpstreamForwarder.handle directResolver (fun _ => chatServer)
      (fun _ => 0) chatKey ⟨.v4 ⟨10, 0, 0, 7⟩, 51234⟩ 80 chatRequest
    upgraded.outcome.status? = some Status.switchingProtocols ∧
      upgraded.session = some ⟨none, .v13, some "chat.test"⟩ ∧ upgraded.delivery.isSome = true := by
  refine ⟨rfl, by decide, rfl, ?_, ?_⟩
  · decide +kernel
  · decide +kernel

end HttpForwarder

end Gatehouse
