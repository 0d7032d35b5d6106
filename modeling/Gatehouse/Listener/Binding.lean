import Gatehouse.Forwarding.Http
import Gatehouse.Net.Sockets
import Gatehouse.Registry

/-!
# Binding proxies

Before a proxy accepts connections it needs a socket, a certificate if it speaks TLS, and
settings for forwarding, in this order. It also needs one permit for each connection that may be
open at the same time, and a semaphore holds only so many. What a proxy that cannot be bound has
opened is closed again.

## Main definitions

* `Forwarder`, `ProxyListener` : a proxy that is ready to accept connections.
* `BindOutcome`, `Binding` : what comes of binding, and what it leaves behind.
* `Endpoint.bind`, `Router.bind` : binding a proxy.
* `Router.serve` : binding all proxies.
-/

namespace Gatehouse

/-- What becomes of the connections of a listener. -/
inductive Forwarder where
  /-- Requests are forwarded one by one. -/
  | http (settings : HttpForwarder)
  /-- Bytes are forwarded as they come. -/
  | bytes (target : Url)
  deriving DecidableEq, Repr

/-- The settings for forwarding by a proxy of an endpoint. -/
def Forwarder.create (p : Proxy) (host : String) : Except RouterError Forwarder :=
  if p.scheme.isHttp then (HttpForwarder.create p.listen p.target host).map .http
  else .ok (.bytes p.target)

/-- A proxy that is ready to accept connections. -/
structure ProxyListener where
  proxy : Proxy
  /-- The address that is listened on. -/
  address : SocketAddress
  /-- What it presents to clients, if it speaks TLS. -/
  tls : Option TlsServer
  forwarder : Forwarder
  /-- How many connections may be open at the same time. -/
  permits : Nat
  deriving DecidableEq, Repr

/-- What comes of binding a proxy. -/
inductive BindOutcome where
  | bound (listener : ProxyListener)
  | failed (cause : RouterError)
  /-- More permits are wanted than a semaphore holds. -/
  | tooManyPermits
  deriving DecidableEq, Repr

/-- The number of permits that a semaphore holds at most. -/
def maxPermits : Nat := Nat.pow 2 61 - 1

/-- What comes of binding a proxy, and what it leaves behind. -/
structure Binding where
  outcome : BindOutcome
  /-- The certificates of the endpoint afterwards. -/
  certificates : CertificateCache
  /-- How often the issuer has been asked by then. -/
  asked : Nat
  sockets : Sockets

namespace Endpoint

/-- What a listener of the scheme presents to clients, if it speaks TLS: a certificate for the
host of the endpoint. -/
def listenerTls (e : Endpoint) (scheme : ListenScheme) (issuer : Issuer) (asked : Nat) :
    Except RouterError (Option TlsServer) × CertificateCache × Nat :=
  match scheme.offeredProtocols with
  | none => (.ok none, e.certificates, asked)
  | some protocols =>
    let (result, certificates, asked) := e.certificates.obtain issuer asked e.host
    (result.map fun c => some ⟨c, protocols, .v13⟩, certificates, asked)

/-- Binds a proxy of an endpoint. -/
def bind (e : Endpoint) (p : Proxy) (issuer : Issuer) (asked : Nat) (sockets : Sockets) :
    Binding :=
  match sockets.bind p.bindAddress with
  | .error cause => ⟨.failed (.io cause), e.certificates, asked, sockets⟩
  | .ok (address, opened) =>
    match e.listenerTls p.scheme issuer asked with
    | (.error cause, certificates, asked) => ⟨.failed cause, certificates, asked, sockets⟩
    | (.ok tls, certificates, asked) =>
      match Forwarder.create p e.host with
      | .error cause => ⟨.failed cause, certificates, asked, sockets⟩
      | .ok forwarder =>
        if maxPermits < e.settings.maxConnections then
          ⟨.tooManyPermits, certificates, asked, sockets⟩
        else
          ⟨.bound ⟨p, address, tls, forwarder, e.settings.maxConnections⟩,
            certificates, asked, opened⟩

end Endpoint

namespace Router

/-- Binds a proxy that was created on the endpoint of a host. The endpoint may be gone. -/
def bind (r : Router) (host : String) (p : Proxy) (issuer : Issuer) (sockets : Sockets) :
    BindOutcome × Router × Sockets :=
  match r.endpoint? host with
  | none => (.failed (.endpointGone p.listen.text), r, sockets)
  | some e =>
    let b := e.bind p issuer r.asked sockets
    (b.outcome, { r.store host { e with certificates := b.certificates } with asked := b.asked },
      b.sockets)

/-- All proxies with the hosts of their endpoints, in order. -/
def proxies (r : Router) : List (String × Proxy) :=
  r.endpoints.flatMap fun e => e.proxies.map fun p => (e.host, p)

/-- Binds proxies one after the other, whatever comes of each. -/
def bindEach (r : Router) (issuer : Issuer) (sockets : Sockets) :
    List (String × Proxy) → List BindOutcome × Router × Sockets
  | [] => ([], r, sockets)
  | (host, p) :: rest =>
    let (outcome, r, sockets) := r.bind host p issuer sockets
    let (outcomes, r, sockets) := bindEach r issuer sockets rest
    (outcome :: outcomes, r, sockets)

/-- What comes of serving all proxies. -/
inductive ServeOutcome where
  /-- There is no proxy to serve. -/
  | nothing
  /-- The first proxy that stopped could not be bound. -/
  | stopped (cause : RouterError)
  /-- The first proxy that stopped asked for too many permits. -/
  | broken
  /-- All proxies accept connections. -/
  | running
  deriving DecidableEq, Repr

/-- What comes of serving, given what came of binding each proxy: the first one to stop
decides. -/
def ServeOutcome.ofOutcomes (outcomes : List BindOutcome) : ServeOutcome :=
  if outcomes = [] then .nothing
  else
    (outcomes.findSome? fun
      | .bound _ => none
      | .failed cause => some (.stopped cause)
      | .tooManyPermits => some .broken).getD .running

/-- Serves all proxies, as far as they can be bound. -/
def serve (r : Router) (issuer : Issuer) (sockets : Sockets) :
    ServeOutcome × List BindOutcome × Router × Sockets :=
  let (outcomes, r, sockets) := r.bindEach issuer sockets r.proxies
  (ServeOutcome.ofOutcomes outcomes, outcomes, r, sockets)

end Router

end Gatehouse
