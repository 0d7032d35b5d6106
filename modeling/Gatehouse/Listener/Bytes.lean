import Gatehouse.Forwarding.Bytes

/-!
# Bytes at a listener

The connections of a listener for bytes are forwarded next to each other, and share its counters.
For each of them the backend is connected to, with the rack and the network as they are then, and a
pump is started between the client and the backend. A backend that cannot be reached is counted at
once, and nothing happens while the rack is waited for. When a pump has returned, the bytes to the
backend are counted, and then those from the backend, each in a step of its own. The steps of the
connections come in any order, and the streams change by themselves at any time.

## Main definitions

* `ByteCircumstances` : what is around a connection while its backend is connected to.
* `ByteTask`, `ByteTask.step` : how far the forwarding of a connection has come, and its steps.
* `ByteService`, `ByteService.step`, `ByteService.run` : the connections and the counters that they
  share, one event, and all events of a run.
-/

namespace Gatehouse

/-- What is around a connection while its backend is connected to: the rack and the network, the
stream behind each way to a backend, the random words, and the time. -/
structure ByteCircumstances (τ β : Type) where
  resolver : Resolver τ
  streams : BackendStream τ → β
  draws : Draws
  now : Nat

/-- How far the forwarding of a connection has come. -/
inductive ByteTask (α β : Type) where
  /-- The backend is to be connected to. -/
  | connecting (client : α)
  /-- The pump has been started, and nothing has been counted. -/
  | pumping (limit : Option Nat) (pump : Pump) (client : α) (backend : β)
  /-- The pump has returned, and its bytes to the backend have been counted. -/
  | counting (stats : PumpStats) (failure : Option IoError)
  /-- Everything has been counted. -/
  | ended (x : ByteForwarding)
  deriving DecidableEq

/-- What may happen to the forwarding of a connection. -/
inductive ByteTaskEvent (τ α β : Type) where
  /-- The backend is connected to. -/
  | connect (c : ByteCircumstances τ β)
  /-- One direction of the pump takes a step at the given time. -/
  | pump (dir : Direction) (now : Nat)
  /-- The pump takes a step of shutting its streams down. -/
  | release
  /-- The client changes by itself. -/
  | client (a : α)
  /-- The backend changes by itself. -/
  | backend (b : β)
  /-- The bytes to the backend are counted. -/
  | countTo
  /-- The bytes from the backend are counted. -/
  | countFrom

/-- The counters and the forwarding of a connection to a target after an event, if the event can
happen. -/
def ByteTask.step {τ α β : Type} [ByteStream α] [ByteStream β] (target : Url)
    (counters : ListenerStats) : ByteTask α β → ByteTaskEvent τ α β →
      Option (ListenerStats × ByteTask α β)
  | .connecting client, .connect c =>
    match (c.resolver.connect target c.draws).result with
    | .error e => some (counters.addBackendFailure, .ended (.unreached e))
    | .pending => none
    | .ok stream =>
      some (counters, .pumping c.resolver.idleTimeout (.start c.now) client (c.streams stream))
  | .connecting _, .client a => some (counters, .connecting a)
  | .pumping limit p client backend, .pump dir now =>
    (p.step limit now dir client backend).map fun (p, client, backend) =>
      (counters, .pumping limit p client backend)
  | .pumping limit p client backend, .release =>
    (p.release client backend).map fun (p, client, backend) =>
      (counters, .pumping limit p client backend)
  | .pumping limit p _ backend, .client a => some (counters, .pumping limit p a backend)
  | .pumping limit p client _, .backend b => some (counters, .pumping limit p client b)
  | .pumping _ p _ _, .countTo =>
    match ByteForwarding.ofPump? p with
    | some (.pumped stats failure) =>
      some (counters.addBytesToBackend stats.toB, .counting stats failure)
    | _ => none
  | .counting stats failure, .countFrom =>
    some (counters.addBytesFromBackend stats.fromB, .ended (.pumped stats failure))
  | _, _ => none

/-- The connections of a listener for bytes, with the counters that they share. -/
structure ByteService (α β : Type) where
  stats : ListenerStats
  /-- The connections that have come in, the first one first. -/
  tasks : List (ByteTask α β)

/-- What may happen at a listener for bytes. -/
inductive ByteServiceEvent (τ α β : Type) where
  /-- A connection comes in. -/
  | arrive (client : α)
  /-- Something happens to the forwarding of a connection. -/
  | task (i : Nat) (e : ByteTaskEvent τ α β)

namespace ByteService

/-- A listener without connections, which may have counted before. -/
def start {α β : Type} (stats : ListenerStats) : ByteService α β := ⟨stats, []⟩

variable {τ α β : Type} [ByteStream α] [ByteStream β]

/-- The state after an event, if the event can happen. -/
def step (target : Url) (s : ByteService α β) : ByteServiceEvent τ α β →
    Option (ByteService α β)
  | .arrive client => some { s with tasks := s.tasks ++ [.connecting client] }
  | .task i e =>
    match s.tasks[i]? with
    | some t => (t.step target s.stats e).map fun (stats, t) => ⟨stats, s.tasks.set i t⟩
    | none => none

/-- The state after events in order, if all of them can happen. -/
def run (target : Url) (s : ByteService α β) (events : List (ByteServiceEvent τ α β)) :
    Option (ByteService α β) :=
  events.foldlM (step target) s

end ByteService

end Gatehouse
