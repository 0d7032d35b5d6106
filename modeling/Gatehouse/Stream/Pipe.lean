import Gatehouse.Stream.Basic

/-!
# Pipes in memory

A pipe has two ends. What is written to one end is read from the other, in order; each direction
holds a bounded number of bytes. An end that is given up ends both directions: the other end
still reads what is in the pipe and then sees the end of the stream, and its writes fail.

## Main definitions

* `Channel` : one direction.
* `Pipe` : both directions.
* `NearEnd`, `FarEnd` : the pipe as it looks from its two ends.
-/

namespace Gatehouse

/-- One direction of a pipe. -/
structure Channel where
  /-- What has been written and not yet read. -/
  buffer : Bytes
  /-- Whether nothing more can be written. -/
  isClosed : Bool
  deriving DecidableEq, Repr

namespace Channel

/-- The number of bytes that a direction holds at most. -/
def capacity : Nat := 65536

/-- An empty direction. -/
def empty : Channel := ⟨[], false⟩

/-- Reads at most `room` bytes. -/
def read (room : Nat) (c : Channel) : ReadResult × Channel :=
  if c.buffer ≠ [] then (.bytes (c.buffer.take room), { c with buffer := c.buffer.drop room })
  else if c.isClosed then (.bytes [], c)
  else (.blocked, c)

/-- Writes as many bytes as there is room for. -/
def write (data : Bytes) (c : Channel) : WriteResult × Channel :=
  if c.isClosed then (.failed .brokenPipe, c)
  else
    let room := capacity - c.buffer.length
    if room = 0 then (.blocked, c)
    else
      let taken := data.take room
      (.accepted taken.length, { c with buffer := c.buffer ++ taken })

/-- Ends the direction. -/
def close (c : Channel) : Channel := { c with isClosed := true }

end Channel

/-- A pipe between a near end and a far end. -/
structure Pipe where
  /-- From the near end to the far end. -/
  outward : Channel
  /-- From the far end to the near end. -/
  inward : Channel
  deriving DecidableEq, Repr

/-- A pipe in which nothing has been written. -/
def Pipe.empty : Pipe := ⟨.empty, .empty⟩

/-- A pipe as it looks from its near end. -/
structure NearEnd where
  pipe : Pipe
  deriving DecidableEq, Repr

/-- A pipe as it looks from its far end. -/
structure FarEnd where
  pipe : Pipe
  deriving DecidableEq, Repr

instance : ByteStream NearEnd where
  read room e := let (r, c) := e.pipe.inward.read room; (r, ⟨{ e.pipe with inward := c }⟩)
  write data e := let (r, c) := e.pipe.outward.write data; (r, ⟨{ e.pipe with outward := c }⟩)
  flush e := (.flushed, e)
  shutDown e := (.done, ⟨{ e.pipe with outward := e.pipe.outward.close }⟩)
  close e := ⟨⟨e.pipe.outward.close, e.pipe.inward.close⟩⟩
  readsLeft e := e.pipe.inward.buffer.length + 1

instance : ByteStream FarEnd where
  read room e := let (r, c) := e.pipe.outward.read room; (r, ⟨{ e.pipe with outward := c }⟩)
  write data e := let (r, c) := e.pipe.inward.write data; (r, ⟨{ e.pipe with inward := c }⟩)
  flush e := (.flushed, e)
  shutDown e := (.done, ⟨{ e.pipe with inward := e.pipe.inward.close }⟩)
  close e := ⟨⟨e.pipe.outward.close, e.pipe.inward.close⟩⟩
  readsLeft e := e.pipe.outward.buffer.length + 1

end Gatehouse
