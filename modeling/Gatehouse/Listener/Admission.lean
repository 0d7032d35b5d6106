import Gatehouse.Listener.Stats

/-!
# Admitting connections

A listener has a fixed number of permits. Its accept loop takes one connection after the other: a
connection that finds no free permit is counted as rejected and dropped; any other is counted as
accepted and as active, and then handled by a task of its own. When the task is done, it takes the
connection from the active ones, counts it as closed, and gives the permit back.

The task of a connection is done when the connection is closed, and also when the client has been
upgraded: what follows is moved by another task, which holds no permit. The loop, the tasks and
the clients take their steps in any order.

## Main definitions

* `LoopPhase`, `TaskPhase`, `ClientConnection` : where the loop and the tasks are.
* `Admission` : the state of a listener.
* `Admission.step`, `Admission.run` : one event, and all events of a run.
* `Admission.held`, `Admission.openCount` : the permits in use, and the connections that are open.
-/

namespace Gatehouse

/-- Where the accept loop is with the connection at hand. -/
inductive LoopPhase where
  /-- There is none. -/
  | waiting
  /-- The connection has got a permit. -/
  | permitted
  /-- It has also been counted as accepted. -/
  | accepted
  /-- It has also been counted as active. -/
  | activated
  deriving DecidableEq, Repr

/-- Where the task of a connection is. -/
inductive TaskPhase where
  /-- It handles the connection. -/
  | handling
  /-- It has taken the connection from the active ones. -/
  | inactive
  /-- It has also counted the connection as closed. -/
  | closed
  /-- It has also given the permit back. -/
  | released
  deriving DecidableEq, Repr

/-- A connection that has been accepted. -/
structure ClientConnection where
  task : TaskPhase
  /-- Whether the connection is still open. -/
  isOpen : Bool
  /-- Whether the client has been upgraded. -/
  isUpgraded : Bool
  deriving DecidableEq, Repr

/-- The state of a listener. -/
structure Admission where
  /-- The number of permits. -/
  permits : Nat
  stats : ListenerStats
  loop : LoopPhase
  /-- The connections that have a task, the first accepted first. -/
  connections : List ClientConnection
  deriving DecidableEq, Repr

/-- What may happen at a listener. -/
inductive AdmissionEvent where
  /-- A connection comes in and looks for a permit. -/
  | incoming
  /-- The loop takes its next step with the connection at hand. -/
  | loop
  /-- The client of a connection is upgraded. -/
  | upgrade (i : Nat)
  /-- A connection is closed, by either side. -/
  | close (i : Nat)
  /-- The task of a connection takes its next step at the end of its work. -/
  | finish (i : Nat)
  deriving DecidableEq, Repr

namespace ListenerStats

/-- Counts a connection that got no permit. -/
def addRejected (s : ListenerStats) : ListenerStats := { s with rejected := s.rejected + 1 }

/-- Counts a connection that got a permit. -/
def addAccepted (s : ListenerStats) : ListenerStats := { s with accepted := s.accepted + 1 }

/-- Counts a connection that will be handled. -/
def addActive (s : ListenerStats) : ListenerStats := { s with active := s.active + 1 }

/-- Takes back the count of a connection that has been handled. -/
def dropActive (s : ListenerStats) : ListenerStats := { s with active := s.active - 1 }

/-- Counts a connection that has been handled. -/
def addClosed (s : ListenerStats) : ListenerStats := { s with closed := s.closed + 1 }

end ListenerStats

namespace Admission

/-- A listener at which nothing has happened. -/
def start (permits : Nat) : Admission := ⟨permits, .zero, .waiting, []⟩

/-- The number of permits in use: one for the connection at hand, and one for each task that has
not given its own back. -/
def held (s : Admission) : Nat :=
  (if s.loop = .waiting then 0 else 1) + s.connections.countP (·.task != .released)

/-- The number of accepted connections that are open. -/
def openCount (s : Admission) : Nat := s.connections.countP (·.isOpen)

/-- Replaces a connection. -/
def replace (s : Admission) (i : Nat) (c : ClientConnection) : Admission :=
  { s with connections := s.connections.set i c }

/-- The next step of the accept loop with the connection at hand. -/
def stepLoop (s : Admission) : Option Admission :=
  match s.loop with
  | .waiting => none
  | .permitted => some { s with loop := .accepted, stats := s.stats.addAccepted }
  | .accepted => some { s with loop := .activated, stats := s.stats.addActive }
  | .activated =>
    some { s with loop := .waiting, connections := s.connections ++ [⟨.handling, true, false⟩] }

/-- The next step of the task of a connection at the end of its work, which has come when the
connection is closed or the client upgraded. -/
def stepTask (s : Admission) (i : Nat) (c : ClientConnection) : Option Admission :=
  match c.task with
  | .handling =>
    if c.isOpen ∧ ¬ c.isUpgraded then none
    else some { s.replace i { c with task := .inactive } with stats := s.stats.dropActive }
  | .inactive => some { s.replace i { c with task := .closed } with stats := s.stats.addClosed }
  | .closed => some (s.replace i { c with task := .released })
  | .released => none

/-- The state after an event, if the event can happen. -/
def step (s : Admission) : AdmissionEvent → Option Admission
  | .incoming =>
    if s.loop ≠ .waiting then none
    else if s.held < s.permits then some { s with loop := .permitted }
    else some { s with stats := s.stats.addRejected }
  | .loop => s.stepLoop
  | .upgrade i =>
    match s.connections[i]? with
    | some c =>
      if c.task = .handling ∧ c.isOpen ∧ ¬ c.isUpgraded then
        some (s.replace i { c with isUpgraded := true })
      else none
    | none => none
  | .close i =>
    match s.connections[i]? with
    | some c => if c.isOpen then some (s.replace i { c with isOpen := false }) else none
    | none => none
  | .finish i =>
    match s.connections[i]? with
    | some c => s.stepTask i c
    | none => none

/-- The state after events in order, if all of them can happen. -/
def run (s : Admission) (events : List AdmissionEvent) : Option Admission :=
  events.foldlM step s

end Admission

end Gatehouse
