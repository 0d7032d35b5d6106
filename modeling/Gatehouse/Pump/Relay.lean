import Gatehouse.Pump.Basic
import Gatehouse.Stream.Pipe

/-!
# Connections through a tunnel

A tunnel of the rack is reached through a pipe: the connection of a client is pumped into the near
end, and a second pump, the relay, moves bytes between the far end and the tunnel. The two pumps
end on their own, and take their steps in any order.

## Main definitions

* `RelayedConnection` : the two pumps and everything between client and tunnel.
* `RelayedConnection.step`, `RelayedConnection.release` : one step of one direction of one pump, and
  one of shutting its streams down.
* `RelayedConnection.settle` : all steps that can be taken.
-/

namespace Gatehouse

/-- A client that is connected to a tunnel. -/
structure RelayedConnection (α τ : Type) where
  client : α
  /-- The pump between the client and the near end of the pipe. -/
  outer : Pump
  pipe : Pipe
  /-- The pump between the far end of the pipe and the tunnel. -/
  relay : Pump
  tunnel : τ
  deriving DecidableEq

/-- The two pumps of a relayed connection. -/
inductive RelayPart where
  | outer
  | relay
  deriving DecidableEq, Repr

namespace RelayedConnection

variable {α τ : Type} [ByteStream α] [ByteStream τ]

/-- A connection that is opened at the given time. -/
def start (now : Nat) (client : α) (tunnel : τ) : RelayedConnection α τ :=
  ⟨client, .start now, .empty, .start now, tunnel⟩

/-- One step of one direction of one pump. -/
def step (limit : Option Nat) (now : Nat) (part : RelayPart) (dir : Direction)
    (c : RelayedConnection α τ) : Option (RelayedConnection α τ) :=
  match part with
  | .outer => (c.outer.step limit now dir c.client (NearEnd.mk c.pipe)).map fun (p, a, b) =>
      { c with outer := p, client := a, pipe := b.pipe }
  | .relay => (c.relay.step limit now dir (FarEnd.mk c.pipe) c.tunnel).map fun (p, a, b) =>
      { c with relay := p, pipe := a.pipe, tunnel := b }

/-- One step of shutting the streams of one pump down. -/
def release (part : RelayPart) (c : RelayedConnection α τ) : Option (RelayedConnection α τ) :=
  match part with
  | .outer => (c.outer.release c.client (NearEnd.mk c.pipe)).map fun (p, a, b) =>
      { c with outer := p, client := a, pipe := b.pipe }
  | .relay => (c.relay.release (FarEnd.mk c.pipe) c.tunnel).map fun (p, a, b) =>
      { c with relay := p, pipe := a.pipe, tunnel := b }

/-- The outer pump and then the relay, each as far as it goes. -/
def round (limit : Option Nat) (now : Nat) (c : RelayedConnection α τ) : RelayedConnection α τ :=
  let (outer, client, near) := c.outer.poll limit now c.client (NearEnd.mk c.pipe)
  let (relay, far, tunnel) := c.relay.poll limit now (FarEnd.mk near.pipe) c.tunnel
  ⟨client, outer, far.pipe, relay, tunnel⟩

/-- Rounds until one changes nothing, up to a number. -/
def rounds [DecidableEq α] [DecidableEq τ] (limit : Option Nat) (now : Nat) :
    (most : Nat) → RelayedConnection α τ → RelayedConnection α τ
  | 0, c => c
  | most + 1, c =>
    let next := c.round limit now
    if next = c then c else rounds limit now most next

/-- All steps that can be taken, in rounds. -/
def settle [DecidableEq α] [DecidableEq τ] (limit : Option Nat) (now : Nat)
    (c : RelayedConnection α τ) : RelayedConnection α τ :=
  c.rounds limit now (ByteStream.readsLeft c.client + ByteStream.readsLeft c.tunnel +
    c.pipe.outward.buffer.length + c.pipe.inward.buffer.length + 8)

end RelayedConnection

end Gatehouse
