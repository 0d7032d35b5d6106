import Gatehouse.Backend.Selection
import Gatehouse.Net.Network
import Gatehouse.RouterError

/-!
# Attempts to reach a backend

An attempt to reach a backend asks the rack and the network, one call after the other, and what it
asks next depends on the answers so far. It is written down as just that: a call and how the
attempt goes on with the answer, or its end. What answers is not part of the attempt, and may
answer the same call differently at another time.

## Main definitions

* `BackendCall`, `BackendCall.Answer` : what is asked of the rack and of the network, and what it
  may be answered.
* `BackendStream` : a connection to a backend.
* `Connecting` : an attempt.
* `Surroundings` : a rack and a network that may change with every call.
* `Resolution` : a connection or an error, if either ever comes, with all calls made for it.
* `Connecting.run` : what comes of an attempt.
-/

namespace Gatehouse

/-- A request to the rack, or an attempt to connect. -/
inductive BackendCall where
  | list (app service : String)
  | processTunnel (app id : String) (port : Nat)
  | resourceTunnel (app resource : String)
  | dial (address : String)
  deriving DecidableEq, Repr

/-- What a call may be answered. A tunnel is of the type `τ`; dialling gives the address reached,
or says why none was. The rack may leave a call without an answer, but dialling is given up after
some time. -/
abbrev BackendCall.Answer (τ : Type) : BackendCall → Type
  | .list .. => Awaited RackError (List Process)
  | .processTunnel .. => Awaited RackError τ
  | .resourceTunnel .. => Awaited RackError τ
  | .dial _ => Except String SocketAddress

/-- A connection to a backend. A tunnel is of the type `τ`. -/
inductive BackendStream (τ : Type) where
  /-- A direct connection to an address. -/
  | direct (address : SocketAddress)
  | tunnel (t : τ)
  deriving DecidableEq, Repr

/-- A connection as it is shown to people. -/
def BackendStream.debugText {τ : Type} : BackendStream τ → String
  | .direct address => "Tcp(Some(" ++ String.ofList address.text ++ "))"
  | .tunnel _ => "Tunnel"

/-- An attempt to reach a backend: how it goes on. -/
inductive Connecting (τ : Type) where
  /-- It is over or waits for a call forever, and has used random words. -/
  | done (result : Awaited RouterError (BackendStream τ)) (drawsUsed : Nat)
  /-- It makes a call, and goes on with the answer. -/
  | ask (call : BackendCall) (next : call.Answer τ → Connecting τ)

/-- A rack and a network. How a call is answered depends on a state, which every call may
change. -/
structure Surroundings (σ τ : Type) where
  answer : σ → (call : BackendCall) → call.Answer τ
  after : σ → BackendCall → σ

/-- What comes of an attempt to reach a backend. -/
structure Resolution (τ : Type) where
  result : Awaited RouterError (BackendStream τ)
  /-- The calls made, in order. -/
  calls : List BackendCall
  /-- How many random words were used. -/
  drawsUsed : Nat

/-- What comes of an attempt in surroundings that are in a state at its start. -/
def Connecting.run {σ τ : Type} (w : Surroundings σ τ) : Connecting τ → σ → Resolution τ
  | .done result drawsUsed, _ => ⟨result, [], drawsUsed⟩
  | .ask call next, s =>
    let x := (next (w.answer s call)).run w (w.after s call)
    { x with calls := call :: x.calls }

end Gatehouse
