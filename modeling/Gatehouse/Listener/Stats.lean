/-!
# The counters of a listener

A listener counts its connections, the failures of its backends, and the bytes it forwards. The
counters are words of 64 bits.

## Main definitions

* `ListenerStats` : the counters.
* `ListenerStats.addBackendFailure`, `ListenerStats.addBytesToBackend`,
  `ListenerStats.addBytesFromBackend`, `ListenerStats.addBytes` : what forwarding adds.
-/

namespace Gatehouse

/-- The counters of a listener. -/
structure ListenerStats where
  /-- Connections that got a permit. -/
  accepted : UInt64
  /-- Connections that are being handled. -/
  active : UInt64
  /-- Connections that have been handled. -/
  closed : UInt64
  /-- Connections that got no permit. -/
  rejected : UInt64
  backendFailed : UInt64
  bytesToBackend : UInt64
  bytesFromBackend : UInt64
  deriving DecidableEq, Repr

namespace ListenerStats

/-- Nothing has been counted. -/
def zero : ListenerStats := ⟨0, 0, 0, 0, 0, 0, 0⟩

/-- Counts a backend that could not be reached or that failed. -/
def addBackendFailure (s : ListenerStats) : ListenerStats :=
  { s with backendFailed := s.backendFailed + 1 }

/-- Counts bytes that have been forwarded to a backend. -/
def addBytesToBackend (s : ListenerStats) (n : Nat) : ListenerStats :=
  { s with bytesToBackend := s.bytesToBackend + UInt64.ofNat n }

/-- Counts bytes that have been forwarded from a backend. -/
def addBytesFromBackend (s : ListenerStats) (n : Nat) : ListenerStats :=
  { s with bytesFromBackend := s.bytesFromBackend + UInt64.ofNat n }

/-- Counts the bytes that a connection has forwarded. -/
def addBytes (s : ListenerStats) (toBackend fromBackend : Nat) : ListenerStats :=
  { s with
    bytesToBackend := s.bytesToBackend + UInt64.ofNat toBackend
    bytesFromBackend := s.bytesFromBackend + UInt64.ofNat fromBackend }

end ListenerStats

end Gatehouse
