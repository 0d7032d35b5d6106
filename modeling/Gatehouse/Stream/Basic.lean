import Gatehouse.IoError
import Gatehouse.Text.Utf8

/-!
# Byte streams

A byte stream is read from and written to. Neither waits: an operation that cannot go on now says
so, changes nothing, and can be tried again when something else has happened.

## Main definitions

* `ReadResult`, `WriteResult`, `FlushResult`, `ShutDownResult` : what comes of the operations.
* `ByteStream` : the operations, on the states of a stream.
* `ByteStream.shutDown?` : the stream when shutting it down is over.
-/

namespace Gatehouse

/-- What comes of a read. -/
inductive ReadResult where
  /-- Nothing can be read now. -/
  | blocked
  /-- Some bytes, or the end of the stream if there are none. -/
  | bytes (data : Bytes)
  | failed (cause : IoError)
  deriving DecidableEq, Repr

/-- What comes of a write. -/
inductive WriteResult where
  /-- Nothing can be written now. -/
  | blocked
  /-- The first `count` bytes have been taken. -/
  | accepted (count : Nat)
  | failed (cause : IoError)
  deriving DecidableEq, Repr

/-- What comes of a flush. -/
inductive FlushResult where
  | blocked
  | flushed
  | failed (cause : IoError)
  deriving DecidableEq, Repr

/-- What comes of shutting a stream down. -/
inductive ShutDownResult where
  /-- What has been written has to be passed on before, and cannot be now. -/
  | blocked
  | done
  | failed (cause : IoError)
  deriving DecidableEq, Repr

/-- The operations on a stream whose states are of the type `σ`. -/
class ByteStream (σ : Type) where
  /-- Reads at most `room` bytes. -/
  read : (room : Nat) → σ → ReadResult × σ
  /-- Writes bytes, as many as are taken. -/
  write : Bytes → σ → WriteResult × σ
  /-- Passes on what has been written. -/
  flush : σ → FlushResult × σ
  /-- Announces that nothing more will be written. -/
  shutDown : σ → ShutDownResult × σ
  /-- Gives the stream up. -/
  close : σ → σ
  /-- At most so many reads succeed before anything else happens to the stream. -/
  readsLeft : σ → Nat

/-- The stream when shutting it down is over, with success or without, if it is not blocked. -/
def ByteStream.shutDown? {σ : Type} [ByteStream σ] (s : σ) : Option σ :=
  match shutDown s with
  | (.blocked, _) => none
  | (.done, s) | (.failed _, s) => some s

end Gatehouse
