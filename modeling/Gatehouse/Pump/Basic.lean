import Gatehouse.Stream.Basic

/-!
# The pump

A pump copies bytes between two streams in both directions at once, until one direction ends. The
other direction then goes no further, and what the pump returns is decided. It shuts the second
stream down, then the first one, gives both up and returns. Shutting a stream down may take any
time, and it does not matter if it fails.

Each direction reads a chunk, writes all of it, flushes, and counts the chunk then. If reads may
take only so long, a direction fails when a read has been pending for that time; writes may take
any time.

The two directions take their steps in any order. A step of a direction answers nothing when
there is nothing to do: the direction is blocked, or the pump copies no longer.

## Main definitions

* `CopyPhase`, `Copy` : how far one direction has come, and what it has counted.
* `Copy.step` : one step of a direction.
* `Direction`, `PumpOutcome`, `PumpStage`, `Pump` : both directions, and how far the pump has come.
* `Pump.verdict?`, `Pump.outcome` : what is decided, and what has been returned.
* `Pump.step` : one step of one direction.
* `Pump.release` : one step of shutting the streams down.
* `Pump.poll` : both directions and then the release, each as far as it goes.
-/

namespace Gatehouse

/-! ### One direction -/

/-- What a direction is about to do. Times are in milliseconds. -/
inductive CopyPhase where
  /-- To read; the read has been pending since the given time. -/
  | reading (since : Nat)
  /-- To write the rest of a chunk of `size` bytes. -/
  | writing (rest : Bytes) (size : Nat)
  /-- To flush a chunk of `size` bytes. -/
  | flushing (size : Nat)
  /-- Nothing: it has ended, with a failure or with the end of the stream. -/
  | ended (failure : Option IoError)
  deriving DecidableEq, Repr

/-- One direction of a pump. -/
structure Copy where
  phase : CopyPhase
  /-- The bytes of the chunks that have been written and flushed. -/
  count : Nat
  deriving DecidableEq, Repr

namespace Copy

/-- The size up to which bytes are read together. -/
def bufferSize : Nat := 8192

/-- A direction that starts to read at the given time. -/
def start (now : Nat) : Copy := ⟨.reading now, 0⟩

/-- The direction after it has ended. -/
def finish (c : Copy) (failure : Option IoError) : Copy := { c with phase := .ended failure }

/-- Whether a read that has been pending since a time has taken as long as it may. -/
def isIdle (limit : Option Nat) (since now : Nat) : Bool :=
  match limit with
  | none => false
  | some t => t ≤ now - since

variable {α β : Type} [ByteStream α] [ByteStream β]

/-- One step of a direction from a source to a sink, at the time `now`. -/
def step (limit : Option Nat) (now : Nat) (c : Copy) (source : α) (sink : β) :
    Option (Copy × α × β) :=
  match c.phase with
  | .ended _ => none
  | .reading since =>
    match ByteStream.read bufferSize source with
    | (.blocked, _) =>
      if isIdle limit since now then some (c.finish (some .idleTimeout), source, sink) else none
    | (.failed cause, source) => some (c.finish (some cause), source, sink)
    | (.bytes [], source) => some (c.finish none, source, sink)
    | (.bytes data, source) => some ({ c with phase := .writing data data.length }, source, sink)
  | .writing rest size =>
    match ByteStream.write rest sink with
    | (.blocked, _) => none
    | (.failed cause, sink) => some (c.finish (some cause), source, sink)
    | (.accepted 0, sink) => some (c.finish (some .writeZero), source, sink)
    | (.accepted n, sink) =>
      let rest := rest.drop n
      let phase := if rest = [] then CopyPhase.flushing size else .writing rest size
      some ({ c with phase }, source, sink)
  | .flushing size =>
    match ByteStream.flush sink with
    | (.blocked, _) => none
    | (.failed cause, sink) => some (c.finish (some cause), source, sink)
    | (.flushed, sink) => some (⟨.reading now, c.count + size⟩, source, sink)

end Copy

/-! ### Both directions -/

/-- The directions of a pump between two streams, `a` and `b`. -/
inductive Direction where
  | aToB
  | bToA
  deriving DecidableEq, Repr

/-- How the copying of a pump ended. -/
structure PumpOutcome where
  /-- The direction that ended first. -/
  finished : Direction
  /-- What that direction failed with, if it did not come to the end of the stream. -/
  failure : Option IoError
  deriving DecidableEq, Repr

/-- How far a pump has come. -/
inductive PumpStage where
  | copying
  /-- A direction has ended, and `b` is to be shut down. -/
  | releasingB (o : PumpOutcome)
  /-- `a` is to be shut down too. -/
  | releasingA (o : PumpOutcome)
  /-- The pump has given up both streams and returned. -/
  | returned (o : PumpOutcome)
  deriving DecidableEq, Repr

/-- The state of a pump, apart from its streams. -/
structure Pump where
  aToB : Copy
  bToA : Copy
  stage : PumpStage
  deriving DecidableEq, Repr

/-- The bytes that a pump has moved, and the direction that ended first. -/
structure PumpStats where
  toB : Nat
  fromB : Nat
  finished : Direction
  deriving DecidableEq, Repr

namespace Pump

/-- A pump that starts at the given time. -/
def start (now : Nat) : Pump := ⟨.start now, .start now, .copying⟩

/-- What the pump returns, once that is decided. -/
def verdict? (p : Pump) : Option PumpOutcome :=
  match p.stage with
  | .copying => none
  | .releasingB o | .releasingA o | .returned o => some o

/-- What the pump has returned, once it has. -/
def outcome (p : Pump) : Option PumpOutcome :=
  match p.stage with
  | .returned o => some o
  | _ => none

/-- The copy of a direction. -/
def copy (p : Pump) : Direction → Copy
  | .aToB => p.aToB
  | .bToA => p.bToA

/-- Ends the copying if the given direction has ended. -/
def settle (dir : Direction) (p : Pump) : Pump :=
  match (p.copy dir).phase with
  | .ended failure => { p with stage := .releasingB ⟨dir, failure⟩ }
  | _ => p

variable {α β : Type} [ByteStream α] [ByteStream β]

/-- One step of one direction. -/
def step (limit : Option Nat) (now : Nat) (dir : Direction) (p : Pump) (a : α) (b : β) :
    Option (Pump × α × β) :=
  if p.verdict?.isSome then none
  else
    match dir with
    | .aToB => (p.aToB.step limit now a b).map fun (c, a, b) =>
        (settle .aToB { p with aToB := c }, a, b)
    | .bToA => (p.bToA.step limit now b a).map fun (c, b, a) =>
        (settle .bToA { p with bToA := c }, a, b)

/-- One step of shutting the streams down. -/
def release (p : Pump) (a : α) (b : β) : Option (Pump × α × β) :=
  match p.stage with
  | .copying | .returned _ => none
  | .releasingB o => (ByteStream.shutDown? b).map fun b => ({ p with stage := .releasingA o }, a, b)
  | .releasingA o => (ByteStream.shutDown? a).map fun a =>
      ({ p with stage := .returned o }, ByteStream.close a, ByteStream.close b)

/-- Steps of one direction, as many as there is something to do for, up to a number. -/
def advance (limit : Option Nat) (now : Nat) (dir : Direction) :
    (most : Nat) → Pump → α → β → Pump × α × β
  | 0, p, a, b => (p, a, b)
  | most + 1, p, a, b =>
    match step limit now dir p a b with
    | none => (p, a, b)
    | some (p, a, b) => advance limit now dir most p a b

/-- The steps that a direction takes at most with a source, if each chunk is taken in at most two
writes. -/
def stepsLeft {σ : Type} [ByteStream σ] (source : σ) : Nat :=
  5 * (ByteStream.readsLeft source + 2)

/-- Steps of shutting the streams down, as many as can be taken, up to a number. -/
def releases : (most : Nat) → Pump → α → β → Pump × α × β
  | 0, p, a, b => (p, a, b)
  | most + 1, p, a, b =>
    match p.release a b with
    | none => (p, a, b)
    | some (p, a, b) => releases most p a b

/-- Both directions, one after the other, and then the release, each as far as it goes. -/
def poll (limit : Option Nat) (now : Nat) (p : Pump) (a : α) (b : β) : Pump × α × β :=
  let (p, a, b) := advance limit now .aToB (stepsLeft a) p a b
  let (p, a, b) := advance limit now .bToA (stepsLeft b) p a b
  p.releases 2 a b

/-- What the pump has moved, if it has returned. -/
def stats? (p : Pump) : Option PumpStats :=
  p.outcome.map fun o => ⟨p.aToB.count, p.bToA.count, o.finished⟩

end Pump

end Gatehouse
