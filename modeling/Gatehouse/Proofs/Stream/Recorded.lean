import Gatehouse.Stream.Basic

/-!
# Streams that record what is done to them

A recorded stream is any stream together with the operations that have had an effect on it, in
order: what its reads have given, what its writes have taken, and when shutting it down was over and
it was closed. It answers every operation as the stream inside does, so what is true of recorded
streams is true of all streams; operations that were blocked are not recorded.

## Main definitions

* `StreamEvent`: an operation that has had an effect.
* `Recorded`: a stream with its history.
* `produced`, `accepted`: the bytes that a history has given and taken.
* `Gives`, `Takes`: what one operation may do to a stream that is read or written.
* `Recorded.Parts`: what shutting a stream down and closing it may do.

## Main results

* `Recorded.read_bytes`, `Recorded.write_accepted` and others: what each operation adds to the
  history.
* `Gives.produced_eq`, `Takes.accepted_eq`: a history grows by the bytes given or taken.
* `Recorded.Parts.produced_eq`, `Recorded.Parts.accepted_eq`: no bytes are given or taken in
  parting.
-/

namespace Gatehouse

/-- An operation that has had an effect on a stream. -/
inductive StreamEvent where
  /-- A read has given bytes, or the end of the stream if there are none. -/
  | gave (data : Bytes)
  | readFailed (cause : IoError)
  /-- A write has taken bytes. -/
  | took (data : Bytes)
  | writeFailed (cause : IoError)
  | flushed
  | flushFailed (cause : IoError)
  /-- Shutting the stream down is over, with success or without. -/
  | shutDown
  | closed
  deriving DecidableEq, Repr

/-- The bytes that the reads of a history have given, in order. -/
def produced (history : List StreamEvent) : Bytes :=
  history.flatMap fun
    | .gave data => data
    | _ => []

/-- The bytes that the writes of a history have taken, in order. -/
def accepted (history : List StreamEvent) : Bytes :=
  history.flatMap fun
    | .took data => data
    | _ => []

@[simp] theorem produced_append (first rest : List StreamEvent) :
    produced (first ++ rest) = produced first ++ produced rest :=
  List.flatMap_append

@[simp] theorem accepted_append (first rest : List StreamEvent) :
    accepted (first ++ rest) = accepted first ++ accepted rest :=
  List.flatMap_append

/-- A stream with the operations that have had an effect on it, the first one first. -/
structure Recorded (σ : Type) where
  stream : σ
  history : List StreamEvent
  deriving DecidableEq

namespace Recorded

variable {σ : Type}

/-- A stream to which nothing has been done. -/
def fresh (s : σ) : Recorded σ := ⟨s, []⟩

/-- Adds an operation that has left the stream in the given state. -/
def note (r : Recorded σ) (s : σ) (e : StreamEvent) : Recorded σ := ⟨s, r.history ++ [e]⟩

variable [ByteStream σ]

instance : ByteStream (Recorded σ) where
  read room r :=
    match ByteStream.read room r.stream with
    | (.blocked, s) => (.blocked, { r with stream := s })
    | (.bytes data, s) => (.bytes data, r.note s (.gave data))
    | (.failed cause, s) => (.failed cause, r.note s (.readFailed cause))
  write data r :=
    match ByteStream.write data r.stream with
    | (.blocked, s) => (.blocked, { r with stream := s })
    | (.accepted n, s) => (.accepted n, r.note s (.took (data.take n)))
    | (.failed cause, s) => (.failed cause, r.note s (.writeFailed cause))
  flush r :=
    match ByteStream.flush r.stream with
    | (.blocked, s) => (.blocked, { r with stream := s })
    | (.flushed, s) => (.flushed, r.note s .flushed)
    | (.failed cause, s) => (.failed cause, r.note s (.flushFailed cause))
  shutDown r :=
    match ByteStream.shutDown r.stream with
    | (.blocked, s) => (.blocked, { r with stream := s })
    | (.done, s) => (.done, r.note s .shutDown)
    | (.failed cause, s) => (.failed cause, r.note s .shutDown)
  close r := r.note (ByteStream.close r.stream) .closed
  readsLeft r := ByteStream.readsLeft r.stream

/-! ### What an operation adds to the history -/

theorem read_bytes {room : Nat} {r r' : Recorded σ} {data : Bytes}
    (h : ByteStream.read room r = (.bytes data, r')) :
    r'.history = r.history ++ [.gave data] := by
  simp only [ByteStream.read] at h
  split at h
  next => cases h
  next => cases h; rfl
  next => cases h

theorem read_failed {room : Nat} {r r' : Recorded σ} {cause : IoError}
    (h : ByteStream.read room r = (.failed cause, r')) :
    r'.history = r.history ++ [.readFailed cause] := by
  simp only [ByteStream.read] at h
  split at h
  next => cases h
  next => cases h
  next => cases h; rfl

theorem write_accepted {data : Bytes} {r r' : Recorded σ} {n : Nat}
    (h : ByteStream.write data r = (.accepted n, r')) :
    r'.history = r.history ++ [.took (data.take n)] := by
  simp only [ByteStream.write] at h
  split at h
  next => cases h
  next => cases h; rfl
  next => cases h

theorem write_failed {data : Bytes} {r r' : Recorded σ} {cause : IoError}
    (h : ByteStream.write data r = (.failed cause, r')) :
    r'.history = r.history ++ [.writeFailed cause] := by
  simp only [ByteStream.write] at h
  split at h
  next => cases h
  next => cases h
  next => cases h; rfl

theorem flush_flushed {r r' : Recorded σ}
    (h : ByteStream.flush r = (.flushed, r')) :
    r'.history = r.history ++ [.flushed] := by
  simp only [ByteStream.flush] at h
  split at h
  next => cases h
  next => cases h; rfl
  next => cases h

theorem flush_failed {r r' : Recorded σ} {cause : IoError}
    (h : ByteStream.flush r = (.failed cause, r')) :
    r'.history = r.history ++ [.flushFailed cause] := by
  simp only [ByteStream.flush] at h
  split at h
  next => cases h
  next => cases h
  next => cases h; rfl

/-- A recorded stream is shut down when the stream inside is. -/
theorem shutDown?_eq (r : Recorded σ) :
    ByteStream.shutDown? r = (ByteStream.shutDown? r.stream).map fun s => r.note s .shutDown := by
  simp only [ByteStream.shutDown?, ByteStream.shutDown]
  rcases ByteStream.shutDown r.stream with ⟨_ | _ | cause, s⟩ <;> rfl

theorem history_of_shutDown? {r r' : Recorded σ} (h : ByteStream.shutDown? r = some r') :
    r'.history = r.history ++ [.shutDown] := by
  rw [shutDown?_eq] at h
  obtain ⟨s, -, rfl⟩ := Option.map_eq_some_iff.1 h
  rfl

theorem history_close (r : Recorded σ) :
    (ByteStream.close r).history = r.history ++ [.closed] := rfl

end Recorded

/-! ### One operation on a stream -/

/-- A stream gives bytes in at most one read, which may also fail. -/
inductive Gives {σ : Type} [ByteStream σ] (s : σ) : Bytes → σ → Prop
  | untouched : Gives s [] s
  | read {room : Nat} {data : Bytes} {s' : σ}
      (h : ByteStream.read room s = (.bytes data, s')) : Gives s data s'
  | failed {room : Nat} {cause : IoError} {s' : σ}
      (h : ByteStream.read room s = (.failed cause, s')) : Gives s [] s'

/-- A stream takes bytes in at most one write or is flushed once, which may also fail. -/
inductive Takes {σ : Type} [ByteStream σ] (s : σ) : Bytes → σ → Prop
  | untouched : Takes s [] s
  | wrote {data : Bytes} {n : Nat} {s' : σ}
      (h : ByteStream.write data s = (.accepted n, s')) : Takes s (data.take n) s'
  | writeFailed {data : Bytes} {cause : IoError} {s' : σ}
      (h : ByteStream.write data s = (.failed cause, s')) : Takes s [] s'
  | flushed {s' : σ} (h : ByteStream.flush s = (.flushed, s')) : Takes s [] s'
  | flushFailed {cause : IoError} {s' : σ}
      (h : ByteStream.flush s = (.failed cause, s')) : Takes s [] s'

section

variable {σ : Type} [ByteStream σ] {r r' : Recorded σ} {data : Bytes}

theorem Gives.produced_eq (h : Gives r data r') :
    produced r'.history = produced r.history ++ data := by
  cases h with
  | untouched => simp
  | read h => simp [Recorded.read_bytes h, produced]
  | failed h => simp [Recorded.read_failed h, produced]

theorem Gives.accepted_eq (h : Gives r data r') : accepted r'.history = accepted r.history := by
  cases h with
  | untouched => rfl
  | read h => simp [Recorded.read_bytes h, accepted]
  | failed h => simp [Recorded.read_failed h, accepted]

theorem Takes.accepted_eq (h : Takes r data r') :
    accepted r'.history = accepted r.history ++ data := by
  cases h with
  | untouched => simp
  | wrote h => simp [Recorded.write_accepted h, accepted]
  | writeFailed h => simp [Recorded.write_failed h, accepted]
  | flushed h => simp [Recorded.flush_flushed h, accepted]
  | flushFailed h => simp [Recorded.flush_failed h, accepted]

theorem Takes.produced_eq (h : Takes r data r') : produced r'.history = produced r.history := by
  cases h with
  | untouched => rfl
  | wrote h => simp [Recorded.write_accepted h, produced]
  | writeFailed h => simp [Recorded.write_failed h, produced]
  | flushed h => simp [Recorded.flush_flushed h, produced]
  | flushFailed h => simp [Recorded.flush_failed h, produced]

/-- Nothing is taken back from a history. -/
theorem Gives.history_isPrefix (h : Gives r data r') : r.history <+: r'.history := by
  cases h with
  | untouched => exact List.prefix_rfl
  | read h => exact ⟨_, (Recorded.read_bytes h).symm⟩
  | failed h => exact ⟨_, (Recorded.read_failed h).symm⟩

theorem Takes.history_isPrefix (h : Takes r data r') : r.history <+: r'.history := by
  cases h with
  | untouched => exact List.prefix_rfl
  | wrote h => exact ⟨_, (Recorded.write_accepted h).symm⟩
  | writeFailed h => exact ⟨_, (Recorded.write_failed h).symm⟩
  | flushed h => exact ⟨_, (Recorded.flush_flushed h).symm⟩
  | flushFailed h => exact ⟨_, (Recorded.flush_failed h).symm⟩

end

/-! ### Parting from a stream -/

/-- Whether an operation ends the use of a stream. -/
def StreamEvent.isParting : StreamEvent → Bool
  | .shutDown | .closed => true
  | _ => false

namespace Recorded

/-- A stream has been shut down or closed, or nothing has been done to it. -/
def Parts {σ : Type} (r r' : Recorded σ) : Prop :=
  ∃ events, r'.history = r.history ++ events ∧ events.all StreamEvent.isParting = true

theorem Parts.refl {σ : Type} (r : Recorded σ) : r.Parts r := ⟨[], (List.append_nil _).symm, rfl⟩

theorem Parts.trans {σ : Type} {r r' r'' : Recorded σ} (h : r.Parts r') (h' : r'.Parts r'') :
    r.Parts r'' := by
  obtain ⟨events, hhistory, hevents⟩ := h
  obtain ⟨events', hhistory', hevents'⟩ := h'
  refine ⟨events ++ events', ?_, ?_⟩
  · rw [hhistory', hhistory, List.append_assoc]
  · rw [List.all_append, hevents, hevents']
    rfl

section

variable {σ : Type} [ByteStream σ] {r r' : Recorded σ}

theorem parts_of_shutDown? (h : ByteStream.shutDown? r = some r') : r.Parts r' :=
  ⟨_, history_of_shutDown? h, rfl⟩

theorem parts_close (r : Recorded σ) : r.Parts (ByteStream.close r) := ⟨_, history_close r, rfl⟩

end

variable {σ : Type} {r r' : Recorded σ}

/-- What is collected from the operations of a history stays as it is if parting adds nothing. -/
theorem Parts.flatMap_eq {α : Type} (h : r.Parts r') (f : StreamEvent → List α)
    (hf : ∀ e, e.isParting = true → f e = []) : r'.history.flatMap f = r.history.flatMap f := by
  obtain ⟨events, hhistory, hevents⟩ := h
  have hnothing : events.flatMap f = [] :=
    List.flatMap_eq_nil_iff.2 fun e he => hf e (List.all_eq_true.1 hevents e he)
  rw [hhistory, List.flatMap_append, hnothing, List.append_nil]

theorem Parts.produced_eq (h : r.Parts r') : produced r'.history = produced r.history :=
  h.flatMap_eq _ fun e he => by cases e <;> first | rfl | cases he

theorem Parts.accepted_eq (h : r.Parts r') : accepted r'.history = accepted r.history :=
  h.flatMap_eq _ fun e he => by cases e <;> first | rfl | cases he

theorem Parts.history_isPrefix (h : r.Parts r') : r.history <+: r'.history := by
  obtain ⟨events, hhistory, -⟩ := h
  exact ⟨events, hhistory.symm⟩

end Recorded

end Gatehouse
