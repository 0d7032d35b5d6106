import Gatehouse.Url.Basic
import Gatehouse.RouterError

/-!
# Proxies

A proxy listens on one URL and forwards to another. Its listen URL needs a scheme that listeners
speak and a port, written or implied; the port is what tells the proxies of an endpoint apart.

## Main definitions

* `ListenScheme` : what a listener speaks.
* `Proxy` : a listen URL and a target, and what is derived from the listen URL.
* `Proxy.create` : the proxy of a listen URL and a target.
* `Proxy.bindAddress`, `Proxy.listenText` : where it listens, with the port always written.
-/

namespace Gatehouse

/-- What a listener speaks. -/
inductive ListenScheme where
  | http
  | https
  | tcp
  | tls
  deriving DecidableEq, Repr

namespace ListenScheme

/-- The listen scheme of a URL scheme. -/
def parse (scheme : String) : Except RouterError ListenScheme :=
  if scheme = "http" then .ok .http
  else if scheme = "https" then .ok .https
  else if scheme = "tcp" then .ok .tcp
  else if scheme = "tls" then .ok .tls
  else .error (.unsupportedScheme scheme)

/-- Whether listeners of the scheme forward requests, and not plain bytes. -/
def isHttp : ListenScheme → Bool
  | .http | .https => true
  | .tcp | .tls => false

/-- The protocols that a listener of the scheme offers during the TLS handshake, or none if it
speaks no TLS. -/
def offeredProtocols : ListenScheme → Option (List String)
  | .https => some ["h2", "http/1.1"]
  | .tls => some []
  | .http | .tcp => none

end ListenScheme

/-- A listener and where it forwards to. -/
structure Proxy where
  listen : Url
  target : Url
  scheme : ListenScheme
  /-- The port that is listened on. -/
  port : Nat
  deriving DecidableEq, Repr

namespace Proxy

/-- The proxy of a listen URL and a target. The scheme is checked before the port. -/
def create (listen target : Url) : Except RouterError Proxy :=
  match ListenScheme.parse listen.scheme with
  | .error e => .error e
  | .ok scheme =>
    match listen.portOrDefault with
    | none => .error (.invalidListenPort listen.text)
    | some port => .ok ⟨listen, target, scheme, port⟩

/-- The address that the listener's socket is bound to. -/
def bindAddress (p : Proxy) : String :=
  p.listen.hostText.getD "0.0.0.0" ++ ":" ++ toString p.port

/-- The listen URL with its port always written, and nothing behind it. -/
def listenText (p : Proxy) : String := p.listen.scheme ++ "://" ++ p.bindAddress

end Proxy

end Gatehouse
