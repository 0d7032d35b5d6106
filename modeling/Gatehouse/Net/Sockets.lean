import Gatehouse.Net.Network

/-!
# Listening sockets

A host has addresses, and on each address every port can be listened on once. Port 0 stands for
any free port.

## Main definitions

* `Sockets` : the addresses of a host and what is listened on.
* `Sockets.bind` : a new listening socket.
-/

namespace Gatehouse

/-- The addresses of a host, how it looks names up, and the socket addresses that are listened
on. -/
structure Sockets where
  isLocal : Ip → Bool
  lookup : String → Except IoError Ip
  taken : List SocketAddress

namespace Sockets

/-- Whether an address is the one that stands for all addresses of its version. -/
def isWildcard : Ip → Bool
  | .v4 x => x.text == "0.0.0.0".toList
  | .v6 x => x.text == "::".toList

/-- Whether an address belongs to a host without network: the wildcards and the loopback. -/
def isLoopback : Ip → Bool
  | .v4 x => x.a == 127 || isWildcard (.v4 x)
  | .v6 x => x.text == "::1".toList || isWildcard (.v6 x)

/-- A host without network on which nothing is listened on. -/
def isolated : Sockets := ⟨isLoopback, Network.unreachable.lookup, []⟩

/-- Whether two sockets cannot be listened on at the same time. -/
def conflict (x y : SocketAddress) : Bool :=
  x.port == y.port && (x.ip == y.ip || isWildcard x.ip || isWildcard y.ip)

/-- The first of the ports that are given out. -/
def firstFreePort : Nat := 32768

/-- The first of `room` ports from `port` on that is free on an address. -/
def freePort (s : Sockets) (ip : Ip) : (room port : Nat) → Option Nat
  | 0, _ => none
  | room + 1, port =>
    if s.taken.any (conflict ⟨ip, port⟩) then freePort s ip room (port + 1) else some port

/-- Opens a listening socket. Answers its address and the sockets with it. -/
def bind (s : Sockets) (address : String) : Except IoError (SocketAddress × Sockets) :=
  match SocketAddress.resolve s.lookup address with
  | .error e => .error e
  | .ok x =>
    if !s.isLocal x.ip then .error .addressNotAvailable
    else if x.port = 0 then
      match s.freePort x.ip 28232 firstFreePort with
      | none => .error .addressInUse
      | some port => .ok (⟨x.ip, port⟩, { s with taken := ⟨x.ip, port⟩ :: s.taken })
    else if s.taken.any (conflict x) then .error .addressInUse
    else .ok (x, { s with taken := x :: s.taken })

end Sockets

end Gatehouse
