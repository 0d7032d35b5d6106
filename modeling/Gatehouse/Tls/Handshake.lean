import Gatehouse.Certificate.Basic
import Gatehouse.Tls.ServerName

/-!
# TLS handshakes

A handshake succeeds when the two sides agree on a protocol to speak and the client accepts the
server's certificate. What the client accepts depends on whom it trusts: anyone, the holders of
certificates of one authority, or the holders of certificates that the public authorities stand for.

## Main definitions

* `Trust`, `TlsClient`, `TlsServer` : the two sides.
* `Certificate.covers` : whether a certificate is one for a server name.
* `TlsFailure` : why a handshake fails, with its wording.
* `TlsClient.verify` : whether a client accepts a certificate.
* `handshake` : the session that a handshake leads to.
-/

namespace Gatehouse

/-- Whom a client trusts. -/
inductive Trust where
  /-- Any certificate will do. -/
  | anyone
  /-- Certificates of an authority. -/
  | authority (name : String)
  /-- Certificates of the public authorities. -/
  | publicAuthorities
  deriving DecidableEq, Repr

/-- The versions of the protocol. -/
inductive TlsVersion where
  | v12
  | v13
  deriving DecidableEq, Repr

/-- What a client brings to a handshake. -/
structure TlsClient where
  trust : Trust
  /-- The protocols it is willing to speak. -/
  protocols : List String
  /-- The server it wants to reach. -/
  name : ServerName
  deriving DecidableEq, Repr

/-- What a server brings to a handshake. -/
structure TlsServer where
  certificate : Certificate
  /-- The protocols it is willing to speak; none means that it does not care. -/
  protocols : List String
  version : TlsVersion
  deriving DecidableEq, Repr

/-- The client of the router: it speaks HTTP/1.1 only. -/
def TlsClient.http (trust : Trust) (name : ServerName) : TlsClient := ⟨trust, ["http/1.1"], name⟩

/-- Why a handshake fails. -/
inductive TlsFailure where
  /-- Nobody who is trusted stands for the certificate. -/
  | unvouched (fault : String)
  /-- The certificate is for another name. -/
  | notValidForName
  /-- The two sides speak no common protocol. -/
  | noApplicationProtocol
  deriving DecidableEq, Repr

/-- The wording of a failure. -/
def TlsFailure.message : TlsFailure → String
  | .unvouched fault => "invalid peer certificate: " ++ fault
  | .notValidForName => "invalid peer certificate: NotValidForName"
  | .noApplicationProtocol => "received fatal alert: NoApplicationProtocol"

/-- What the two sides have agreed on. -/
structure TlsSession where
  protocol : Option String
  version : TlsVersion
  /-- The name that the client told the server. -/
  sni : Option String
  deriving DecidableEq, Repr

/-- The name without a point at its end, in lower case. -/
def ServerName.canonical (name : String) : List Char :=
  Text.trimRight (· == '.') (Text.toLower name.toList)

/-- The name that a client tells the server: addresses are not told. -/
def ServerName.sni : ServerName → Option String
  | .dns name => some (String.ofList (ServerName.canonical name))
  | .ip _ => none

namespace Certificate

/-- Whether a name that a certificate is for stands for a name in canonical form. A wildcard
stands for exactly one label, and needs two more behind it. -/
def nameCovers (presented name : List Char) : Bool :=
  match presented with
  | '*' :: '.' :: rest =>
    ServerName.isDns rest && (ServerName.labels rest).length ≥ 2 && rest.getLast? != some '.' &&
      match Text.cutFirst '.' name with
      | some (_, tail) => tail == rest
      | none => false
  | presented => ServerName.isDns presented && presented == name

/-- Whether a certificate is for a server. -/
def covers (c : Certificate) (server : ServerName) : Bool :=
  match Ip.parse? c.hostname.toList, server with
  | some x, .ip y => x == y
  | none, .dns name => nameCovers (Text.toLower c.hostname.toList) (ServerName.canonical name)
  | _, _ => false

end Certificate

/-- The protocol that both sides speak. -/
def agreeOnProtocol (client server : List String) : Except TlsFailure (Option String) :=
  if client = [] ∨ server = [] then .ok none
  else
    match server.find? client.contains with
    | some p => .ok (some p)
    | none => .error .noApplicationProtocol

/-- Why nobody whom a client trusts stands for a certificate, if it trusts someone in particular. -/
def Trust.fault? (trust : Trust) (c : Certificate) : Option String :=
  match trust with
  | .anyone => none
  | .authority name => if c.authority = name then none else some unknownIssuer
  | .publicAuthorities => c.publicFault

/-- Whether a client accepts a certificate; who stands for it is looked at before the name. -/
def TlsClient.verify (client : TlsClient) (c : Certificate) : Except TlsFailure Unit :=
  match client.trust.fault? c with
  | some fault => .error (.unvouched fault)
  | none =>
    if client.trust = .anyone ∨ c.covers client.name then .ok () else .error .notValidForName

/-- The session that a handshake leads to. -/
def handshake (client : TlsClient) (server : TlsServer) : Except TlsFailure TlsSession :=
  match agreeOnProtocol client.protocols server.protocols with
  | .error e => .error e
  | .ok protocol =>
    match client.verify server.certificate with
    | .error e => .error e
    | .ok _ => .ok ⟨protocol, server.version, client.name.sni⟩

end Gatehouse
