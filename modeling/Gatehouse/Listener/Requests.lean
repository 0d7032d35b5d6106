import Gatehouse.Forwarding.Handling
import Gatehouse.Listener.Admission

/-!
# Requests at a listener

The connections of a listener for HTTP carry requests, any number of them at a time. A request is
handled with the rack, the network and the backends as they are then. If that has come to a failure
of the backend, the failure is counted, and the answer is given to the connection afterwards. While
the rack or the backend is waited for, the request is not handled yet. A request whose client goes
away is given up while it is being handled.

The requests, the accept loop and the tasks of the connections take their steps in any order.

## Main definitions

* `Handling.record` : what a request adds to the counters.
* `Circumstances`, `HttpForwarder.handleIn` : what is around a request while it is handled.
* `RequestPhase`, `InboundRequest` : where a request is.
* `HttpService` : the state of a listener for HTTP.
* `HttpService.step`, `HttpService.run` : one event, and all events of a run.
-/

namespace Gatehouse

/-- The counters with one request added. -/
def Handling.record (counters : ListenerStats) (x : Handling) : ListenerStats :=
  if x.isBackendFailure then counters.addBackendFailure else counters

/-- What is around a request while it is handled: the rack and the network, what serves behind each
stream to a backend, the random words, and the key for a handshake with the backend. -/
structure Circumstances (τ : Type) where
  resolver : Resolver τ
  servers : BackendStream τ → BackendServer
  draws : Draws
  key : Bytes

/-- Handles a request of a client, on a port of the listener. -/
def HttpForwarder.handleIn {τ : Type} (f : HttpForwarder) (port : Nat) (c : Circumstances τ)
    (peer : SocketAddress) (r : Request) : Handling :=
  f.handle c.resolver c.servers c.draws c.key peer port r

/-- Where a request is. -/
inductive RequestPhase where
  /-- It is being handled. -/
  | handling
  /-- It has been handled and counted. -/
  | recorded (x : Handling)
  /-- Its answer has been given to the connection. -/
  | answered (x : Handling)
  /-- The client has gone away while it was being handled. -/
  | abandoned

/-- A request that has come in. -/
structure InboundRequest where
  /-- The address of the client. -/
  peer : SocketAddress
  request : Request
  phase : RequestPhase

/-- The state of a listener for HTTP. -/
structure HttpService where
  admission : Admission
  /-- The requests that have come in, the first one first. -/
  requests : List InboundRequest

/-- What may happen at a listener for HTTP. -/
inductive HttpServiceEvent (τ : Type) where
  /-- Something happens to the connections. -/
  | admission (e : AdmissionEvent)
  /-- A request comes in over a connection. -/
  | arrive (connection : Nat) (peer : SocketAddress) (r : Request)
  /-- A request has been handled, and is counted. -/
  | handle (i : Nat) (c : Circumstances τ)
  /-- The answer to a request is given to its connection. -/
  | answer (i : Nat)
  /-- The client of a request goes away. -/
  | abandon (i : Nat)

namespace HttpService

/-- A listener at which nothing has happened. -/
def start (permits : Nat) : HttpService := ⟨.start permits, []⟩

/-- The counters. -/
def stats (s : HttpService) : ListenerStats := s.admission.stats

/-- Replaces a request. -/
def replace (s : HttpService) (i : Nat) (q : InboundRequest) : HttpService :=
  { s with requests := s.requests.set i q }

/-- Counts a request that has been handled. -/
def record (s : HttpService) (x : Handling) : HttpService :=
  { s with admission := { s.admission with stats := x.record s.admission.stats } }

variable {τ : Type}

/-- The state after an event, if the event can happen. -/
def step (f : HttpForwarder) (port : Nat) (s : HttpService) :
    HttpServiceEvent τ → Option HttpService
  | .admission e => (s.admission.step e).map fun admission => { s with admission }
  | .arrive connection peer r =>
    match s.admission.connections[connection]? with
    | some c =>
      if c.task = .handling ∧ c.isOpen then
        some { s with requests := s.requests ++ [⟨peer, r, .handling⟩] }
      else none
    | none => none
  | .handle i c =>
    match s.requests[i]? with
    | some ⟨peer, r, .handling⟩ =>
      let x := f.handleIn port c peer r
      if x.outcome = .pending then none else some ((s.record x).replace i ⟨peer, r, .recorded x⟩)
    | _ => none
  | .answer i =>
    match s.requests[i]? with
    | some ⟨peer, r, .recorded x⟩ => some (s.replace i ⟨peer, r, .answered x⟩)
    | _ => none
  | .abandon i =>
    match s.requests[i]? with
    | some ⟨peer, r, .handling⟩ => some (s.replace i ⟨peer, r, .abandoned⟩)
    | _ => none

/-- The state after events in order, if all of them can happen. -/
def run (f : HttpForwarder) (port : Nat) (s : HttpService) (events : List (HttpServiceEvent τ)) :
    Option HttpService :=
  events.foldlM (step f port) s

end HttpService

end Gatehouse
