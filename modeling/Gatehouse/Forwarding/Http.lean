import Gatehouse.Forwarding.Director
import Gatehouse.RouterError
import Gatehouse.Tls.Handshake

/-!
# Forwarding requests: settings

What a listener for requests does with them is decided once, from its listen URL, its target and
the host of its endpoint: how outbound paths come about, and how the hop to the backend is
secured. The latter is decided separately for plain requests and for WebSocket connections.

Workloads of the rack present certificates that nobody vouches for, so any certificate will do
there. Plain requests to direct backends trust the public authorities only.

## Main definitions

* `HopSecurity` : how a hop to a backend is secured.
* `HttpForwarder` : the settings.
* `HttpForwarder.create` : the settings for a listen URL, a target and a host.
-/

namespace Gatehouse

/-- How the hop to a backend is secured. -/
inductive HopSecurity where
  /-- Nothing is encrypted. -/
  | plain
  /-- By TLS, towards a server of the given name. -/
  | tls (trust : Trust) (server : String)
  deriving DecidableEq, Repr

/-- Whether a scheme of a target asks for TLS. -/
def asksForTls (scheme : String) : Bool := scheme == "https" || scheme == "wss"

namespace HopSecurity

/-- How plain requests to a target are secured. -/
def forRequests (target : Url) (host : String) : HopSecurity :=
  if !asksForTls target.scheme then .plain
  else if target.isRackTarget then .tls .anyone host
  else .tls .publicAuthorities (target.hostText.getD host)

/-- How WebSocket connections to a target are secured. -/
def forWebSocket (target : Url) (host : String) : HopSecurity :=
  if target.isRackTarget then .tls .anyone host
  else if asksForTls target.scheme then .tls .anyone (target.hostText.getD host)
  else .plain

end HopSecurity

/-- How requests are forwarded. -/
structure HttpForwarder where
  /-- The scheme of the listener, which backends are told. -/
  listenScheme : String
  target : Url
  /-- The host of the endpoint. -/
  host : String
  director : Director
  requestSecurity : HopSecurity
  webSocketSecurity : HopSecurity
  deriving DecidableEq, Repr

/-- How requests to a listener are forwarded to a target. A target in the rack must name a
workload. -/
def HttpForwarder.create (listen target : Url) (host : String) :
    Except RouterError HttpForwarder :=
  let forwarder : HttpForwarder := {
    listenScheme := listen.scheme
    target, host
    director := Director.ofTarget target
    requestSecurity := HopSecurity.forRequests target host
    webSocketSecurity := HopSecurity.forWebSocket target host }
  if target.isRackTarget then
    match target.rackTarget with
    | .error e => .error (.target e)
    | .ok _ => .ok forwarder
  else .ok forwarder

end Gatehouse
