import Gatehouse.Net.Ip
import Gatehouse.IoError

/-!
# Opening connections

An address is written as a host and a port with a colon between them. The host is a literal
address, or a name that is looked up. What comes of an attempt to connect is up to the network.

## Main definitions

* `SocketAddress.resolve` : the address that a text denotes.
* `Attempt` : what comes of an attempt to connect.
* `Network` : the answers to look-ups and attempts.
* `Network.connect`, `Network.dial` : an attempt to connect to a written address, and what comes of
  it for the one who dials.
-/

namespace Gatehouse

/-- The socket address that a host and a port denote, given how names are looked up. -/
def SocketAddress.resolve (lookup : String → Except IoError Ip) (address : String) :
    Except IoError SocketAddress :=
  match SocketAddress.parse? address with
  | some x => .ok x
  | none =>
    match Text.cutLast ':' address.toList with
    | none => .error ⟨.invalidInput, "invalid socket address"⟩
    | some (host, port) =>
      match Numeral.readPort port with
      | .error _ => .error ⟨.invalidInput, "invalid port value"⟩
      | .ok port =>
        match Ip.parse? host with
        | some ip => .ok ⟨ip, port⟩
        | none => (lookup (String.ofList host)).map fun ip => ⟨ip, port⟩

/-- What comes of an attempt to connect. -/
inductive Attempt where
  /-- The connection is open. -/
  | opened
  | failed (cause : IoError)
  /-- Nothing happens for as long as one waits. -/
  | silent
  deriving DecidableEq, Repr

/-- A network: the address of each name, and what comes of each attempt to connect. -/
structure Network where
  lookup : String → Except IoError Ip
  attempt : SocketAddress → Attempt

namespace Network

/-- A name that has no address. -/
def unknownName : IoError :=
  ⟨.other, "failed to lookup address information: Temporary failure in name resolution"⟩

/-- The network of a host without routes: no name is known and no address is reached. -/
def unreachable : Network where
  lookup _ := .error unknownName
  attempt _ := .failed .networkUnreachable

/-- An attempt to connect to a written address. -/
def connect (net : Network) (address : String) : Attempt :=
  match SocketAddress.resolve net.lookup address with
  | .error e => .failed e
  | .ok x => net.attempt x

/-- What dialling a written address gives: the address reached, or why none was. -/
def dial (net : Network) (address : String) : Except String SocketAddress :=
  match SocketAddress.resolve net.lookup address with
  | .error e => .error e.text
  | .ok x =>
    match net.attempt x with
    | .opened => .ok x
    | .failed e => .error e.text
    | .silent => .error "connect timeout"

end Network

end Gatehouse
