import Gatehouse.Backend.Address
import Gatehouse.Backend.Connecting

/-!
# Connecting to backends

A target in the rack is reached through a tunnel: to one of the live processes of a service,
picked at random, or to a resource. Any other target is dialled. Each attempt asks the rack anew,
and nothing is tried twice.

## Main definitions

* `Connecting.toAddress`, `Connecting.toWorkload`, `Connecting.toTarget` : the attempts to reach an
  address, a workload and a target URL.
* `Surroundings.connect`, `Surroundings.connectAll` : connecting to a target URL, and to one after
  the other.
* `Resolver` : what connecting relies on, as it answers during an attempt.
* `Resolver.dial`, `Resolver.resolve`, `Resolver.connect` : dialling an address, reaching a
  workload, and connecting to a target URL.
-/

namespace Gatehouse

/-! ### Attempts -/

namespace Connecting

variable {τ : Type}

/-- A direct connection as the network answered. -/
def ofDial (address : String) (answer : Except String SocketAddress) :
    Awaited RouterError (BackendStream τ) :=
  match answer with
  | .ok x => .ok (.direct x)
  | .error detail => .error (.dialFailure address detail)

/-- Dials an address. -/
def toAddress (address : String) : Connecting τ :=
  .ask (.dial address) fun answer => .done (ofDial address answer) 0

/-- A tunnel as the rack answered. -/
def ofTunnel (answer : Awaited RackError τ) : Awaited RouterError (BackendStream τ) :=
  match answer with
  | .ok t => .ok (.tunnel t)
  | .error e => .error (.tunnelFailure e)
  | .pending => .pending

/-- Reaches a service: lists its processes, picks one of them, and opens a tunnel to the port. -/
def toService (app name : String) (port : Nat) (draws : Draws) : Connecting τ :=
  .ask (.list app name) fun
    | .error e => .done (.error (.rack e)) 0
    | .pending => .done .pending 0
    | .ok processes =>
      match Selection.pick processes draws with
      | (none, used) => .done (.error (.noInstances app name)) used
      | (some p, used) =>
        .ask (.processTunnel app p.id port) fun answer => .done (ofTunnel answer) used

/-- Reaches a workload of the rack. A service needs a port. -/
def toWorkload (target : Target) (draws : Draws) : Connecting τ :=
  match target.kind with
  | .service =>
    match target.port with
    | none => .done (.error (.target (.malformedSelector TargetKind.service.name target.name))) 0
    | some port => toService target.app target.name port draws
  | .resource =>
    .ask (.resourceTunnel target.app target.name) fun answer => .done (ofTunnel answer) 0

/-- Reaches a target URL. -/
def toTarget (target : Url) (draws : Draws) : Connecting τ :=
  if target.isRackTarget then
    match target.rackTarget with
    | .error e => .done (.error (.target e)) 0
    | .ok workload => toWorkload workload draws
  else
    match target.dialAddress with
    | .error e => .done (.error e) 0
    | .ok address => toAddress address

end Connecting

/-! ### Surroundings that change -/

namespace Surroundings

variable {σ τ : Type}

/-- Connects to a target URL. -/
def connect (w : Surroundings σ τ) (s : σ) (target : Url) (draws : Draws) : Resolution τ :=
  (Connecting.toTarget target draws).run w s

/-- Connects to target URLs one after the other. Each attempt starts in a state of its own and with
the random words that the ones before it have left. -/
def connectAll (w : Surroundings σ τ) : Draws → List (σ × Url) → List (Resolution τ)
  | _, [] => []
  | draws, (s, target) :: rest =>
    let x := w.connect s target draws
    x :: w.connectAll (draws.drop x.drawsUsed) rest

end Surroundings

/-! ### Surroundings that stay as they are -/

/-- What connecting relies on, as it answers during an attempt. Times are in milliseconds. -/
structure Resolver (τ : Type) where
  rack : Rack τ
  network : Network
  connectTimeout : Nat
  idleTimeout : Option Nat

namespace Resolver

variable {τ : Type}

/-- The answer to a call. -/
def answer (r : Resolver τ) : (call : BackendCall) → call.Answer τ
  | .list app service => r.rack.list app service
  | .processTunnel app id port => r.rack.processTunnel app id port
  | .resourceTunnel app resource => r.rack.resourceTunnel app resource
  | .dial address => r.network.dial address

/-- The rack and the network of a resolver, which always answer the same. -/
def surroundings (r : Resolver τ) : Surroundings Unit τ := ⟨fun _ => r.answer, fun s _ => s⟩

/-- Dials an address. -/
def dial (r : Resolver τ) (address : String) : Resolution τ :=
  (Connecting.toAddress address).run r.surroundings ()

/-- Reaches a workload of the rack. -/
def resolve (r : Resolver τ) (target : Target) (draws : Draws) : Resolution τ :=
  (Connecting.toWorkload target draws).run r.surroundings ()

/-- Connects to a target URL. -/
def connect (r : Resolver τ) (target : Url) (draws : Draws) : Resolution τ :=
  r.surroundings.connect () target draws

end Resolver

end Gatehouse
