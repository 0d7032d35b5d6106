import Gatehouse.Backend.Resolver
import Gatehouse.Listener.Stats
import Gatehouse.Pump.Basic

/-!
# Forwarding bytes

A listener for bytes connects each client to the backend anew and pumps between the two. A backend
that cannot be reached is counted; after a pump, its bytes are counted, however it ended.

## Main definitions

* `ByteForwarding` : how one connection ended.
* `ByteForwarding.result` : the bytes moved, or the error.
* `ByteForwarding.record` : what a connection adds to the counters.
-/

namespace Gatehouse

/-- How the connection of a client ended. -/
inductive ByteForwarding where
  /-- The backend could not be reached. -/
  | unreached (cause : RouterError)
  /-- The pump has returned, with a failure or without one. -/
  | pumped (stats : PumpStats) (failure : Option IoError)
  deriving DecidableEq, Repr

namespace ByteForwarding

/-- How the connection ended, if its pump has returned. -/
def ofPump? (p : Pump) : Option ByteForwarding :=
  p.outcome.map fun o => .pumped ⟨p.aToB.count, p.bToA.count, o.finished⟩ o.failure

/-- The bytes moved, or the error. -/
def result : ByteForwarding → Except RouterError PumpStats
  | .unreached cause => .error cause
  | .pumped stats none => .ok stats
  | .pumped _ (some failure) => .error (.io failure)

/-- The counters with one connection added. -/
def record (counters : ListenerStats) : ByteForwarding → ListenerStats
  | .unreached _ => counters.addBackendFailure
  | .pumped stats _ => counters.addBytes stats.toB stats.fromB

end ByteForwarding

end Gatehouse
