import Gatehouse.Stream.Basic

/-!
# Scripted peers

A scripted peer is a stream whose other side is under control: what arrives, how many bytes are
taken, and which operations fail. It records what was written to it, and whether it was shut down
and closed. Any behaviour of a peer, in any timing, is a script of this kind.

## Main definitions

* `Arrival`, `Peer` : what arrives, and the state of a peer.
* `Peer.feed`, `Peer.widen` and others : what may happen to a peer from outside.
-/

namespace Gatehouse

/-- What arrives at a stream. -/
inductive Arrival where
  /-- Bytes, which are read together as far as there is room. -/
  | chunk (data : Bytes)
  /-- The end of the stream. -/
  | ended
  /-- A failure, which one read reports. -/
  | failure (cause : IoError)
  deriving DecidableEq, Repr

/-- The state of a scripted peer. -/
structure Peer where
  /-- What has arrived and has not been read. -/
  inbox : List Arrival
  /-- How many bytes it still takes, if that is limited. -/
  allowance : Option Nat
  /-- What every write fails with, if it does. -/
  writeFault : Option IoError
  /-- What every flush fails with, if it does. -/
  flushFault : Option IoError
  /-- Whether writes succeed without taking a byte. -/
  takesNothing : Bool
  /-- What comes of shutting it down. -/
  onShutDown : ShutDownResult
  /-- All bytes it has taken. -/
  received : Bytes
  isShutDown : Bool
  isClosed : Bool
  deriving DecidableEq, Repr

namespace Peer

/-- A peer to which nothing has happened. -/
def fresh : Peer := ⟨[], none, none, none, false, .done, [], false, false⟩

/-! ### What happens from outside -/

/-- Something arrives. -/
def arrive (p : Peer) (x : Arrival) : Peer := { p with inbox := p.inbox ++ [x] }

/-- Bytes arrive. -/
def feed (p : Peer) (data : Bytes) : Peer := p.arrive (.chunk data)

/-- It takes `n` more bytes; before the first time there is no limit. -/
def widen (p : Peer) (n : Nat) : Peer := { p with allowance := some (p.allowance.getD 0 + n) }

/-- From now on every write fails. -/
def failWrites (p : Peer) (cause : IoError) : Peer := { p with writeFault := some cause }

/-- From now on every flush fails. -/
def failFlushes (p : Peer) (cause : IoError) : Peer := { p with flushFault := some cause }

/-- From now on writes succeed without taking a byte. -/
def takeNothing (p : Peer) : Peer := { p with takesNothing := true }

/-- From now on shutting it down comes to `x`. -/
def setShutDown (p : Peer) (x : ShutDownResult) : Peer := { p with onShutDown := x }

/-! ### The operations of the stream -/

/-- Reads at most `room` bytes of the first chunk. -/
def read (room : Nat) (p : Peer) : ReadResult × Peer :=
  match p.inbox with
  | [] => (.blocked, p)
  | .ended :: _ => (.bytes [], p)
  | .failure cause :: rest => (.failed cause, { p with inbox := rest })
  | .chunk data :: rest =>
    let remaining := data.drop room
    (.bytes (data.take room),
      { p with inbox := if remaining = [] then rest else .chunk remaining :: rest })

/-- Takes as many bytes as it may. -/
def write (data : Bytes) (p : Peer) : WriteResult × Peer :=
  match p.writeFault with
  | some cause => (.failed cause, p)
  | none =>
    if p.takesNothing then (.accepted 0, p)
    else
      match p.allowance with
      | none => (.accepted data.length, { p with received := p.received ++ data })
      | some 0 => (.blocked, p)
      | some n =>
        let taken := data.take n
        (.accepted taken.length,
          { p with received := p.received ++ taken, allowance := some (n - taken.length) })

/-- Fails if flushes do. -/
def flush (p : Peer) : FlushResult × Peer :=
  match p.flushFault with
  | some cause => (.failed cause, p)
  | none => (.flushed, p)

/-- Is shut down, if it can be. -/
def shutDown (p : Peer) : ShutDownResult × Peer :=
  match p.onShutDown with
  | .blocked => (.blocked, p)
  | .done => (.done, { p with isShutDown := true })
  | .failed cause => (.failed cause, p)

/-- At most so many reads succeed before something else arrives. -/
def readsLeft (p : Peer) : Nat :=
  p.inbox.foldl (fun n x => n + match x with
    | .chunk data => data.length + 1
    | _ => 1) 0

instance : ByteStream Peer where
  read := read
  write := write
  flush := flush
  shutDown := shutDown
  close p := { p with isClosed := true }
  readsLeft := readsLeft

end Peer

end Gatehouse
