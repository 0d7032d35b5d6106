import Gatehouse.Proofs.Stream.Recorded
import Gatehouse.Pump.Relay
import Mathlib.Logic.Basic
import Mathlib.Tactic.SplitIfs

/-!
# What passes through a pipe

A direction of a pipe holds what has been written and not yet read, in order. A read takes the
first bytes of it, a write adds to its end, and once it is closed nothing is added any more. The
operations on one end of a pipe that read do not touch the direction that the same end writes, and
the other way around.

## Main results

* `Channel.buffer_eq_of_read`, `Channel.eq_of_write`: reads and writes keep the bytes in order.
* `Channel.eq_of_read_end`: only a closed and empty direction gives the end of the stream.
* `NearEnd.outward_of_takes`, `FarEnd.buffer_eq_of_gives`: the same at the two ends of a pipe.
-/

namespace Gatehouse

/-! ### One direction -/

namespace Channel

variable {room n : Nat} {data : Bytes} {cause : IoError} {c c' : Channel}

/-- What has been read stood before what is left. -/
theorem buffer_eq_of_read (h : c.read room = (.bytes data, c')) :
    c.buffer = data ++ c'.buffer := by
  unfold read at h
  split_ifs at h with hbuffer hclosed
  · cases h
    exact (List.take_append_drop room c.buffer).symm
  · cases h
    rfl
  · cases h

theorem read_ne_failed : c.read room ≠ (.failed cause, c') := by
  unfold read
  split_ifs <;> nofun

/-- A direction gives the end of the stream only if it is closed and holds nothing. -/
theorem eq_of_read_end (hroom : room ≠ 0) (h : c.read room = (.bytes [], c')) :
    c' = ⟨[], true⟩ := by
  unfold read at h
  split_ifs at h with hbuffer hclosed
  · have htake : c.buffer.take room = [] := ReadResult.bytes.inj (Prod.mk.inj h).1
    rcases List.take_eq_nil_iff.1 htake with hzero | hnil
    · exact absurd hzero hroom
    · exact absurd hnil hbuffer
  · have hnil : c.buffer = [] := not_not.1 hbuffer
    rw [← (Prod.mk.inj h).2, ← hnil, ← hclosed]
  · cases h

/-- What is written is added to the end, and only to a direction that is open. -/
theorem eq_of_write (h : c.write data = (.accepted n, c')) :
    c.isClosed = false ∧ c' = ⟨c.buffer ++ data.take n, false⟩ := by
  unfold write at h
  split at h
  next => cases h
  next hclosed =>
    have hopen : c.isClosed = false := by simpa using hclosed
    simp only at h
    split_ifs at h
    · cases h
    · cases h
      rw [hopen, List.length_take, ← List.take_eq_take_min]
      exact ⟨rfl, rfl⟩

/-- A write fails only because the direction is closed. -/
theorem eq_of_write_failed (h : c.write data = (.failed cause, c')) :
    cause = .brokenPipe ∧ c' = c := by
  unfold write at h
  split at h
  next =>
    cases h
    exact ⟨rfl, rfl⟩
  next =>
    simp only at h
    split_ifs at h <;> cases h

/-- A write that goes through takes something. -/
theorem ne_zero_of_write (hdata : data ≠ []) (h : c.write data = (.accepted n, c')) : n ≠ 0 := by
  unfold write at h
  split at h
  next => cases h
  next =>
    simp only at h
    split_ifs at h with hroom
    · cases h
    · cases h
      have hlength := List.length_pos_iff.2 hdata
      rw [List.length_take]
      omega

end Channel

/-! ### The two ends -/

namespace NearEnd

variable {e e' : NearEnd} {data : Bytes}

theorem write_outward {r : WriteResult} (h : ByteStream.write data e = (r, e')) :
    e.pipe.outward.write data = (r, e'.pipe.outward) := by
  have hresult := congrArg Prod.fst h
  have hchannel := congrArg (·.2.pipe.outward) h
  exact Prod.ext hresult hchannel

/-- What the near end takes is added to what goes outward, unless that is closed. -/
theorem outward_of_takes (h : Takes e data e') :
    e'.pipe.outward = ⟨e.pipe.outward.buffer ++ data, e.pipe.outward.isClosed⟩ ∧
      (e.pipe.outward.isClosed → data = []) := by
  cases h with
  | untouched => simp
  | wrote h =>
    obtain ⟨hopen, houtward⟩ := Channel.eq_of_write (write_outward h)
    rw [houtward, hopen]
    exact ⟨rfl, nofun⟩
  | writeFailed h =>
    rw [(Channel.eq_of_write_failed (write_outward h)).2]
    simp
  | flushed h =>
    cases h
    simp
  | flushFailed h => cases h

/-- What is read at the near end does not come from what goes outward. -/
theorem outward_of_gives (h : Gives e data e') : e'.pipe.outward = e.pipe.outward := by
  cases h with
  | untouched => rfl
  | read h => exact congrArg (·.2.pipe.outward) h.symm
  | failed h => exact congrArg (·.2.pipe.outward) h.symm

/-- When the near end is shut down, what goes outward is closed. -/
theorem eq_of_shutDown? (h : ByteStream.shutDown? e = some e') :
    e' = ⟨{ e.pipe with outward := ⟨e.pipe.outward.buffer, true⟩ }⟩ :=
  (Option.some.inj h).symm

end NearEnd

namespace FarEnd

variable {e e' : FarEnd} {data : Bytes} {room n : Nat} {cause : IoError}

theorem read_outward {r : ReadResult} (h : ByteStream.read room e = (r, e')) :
    e.pipe.outward.read room = (r, e'.pipe.outward) := by
  have hresult := congrArg Prod.fst h
  have hchannel := congrArg (·.2.pipe.outward) h
  exact Prod.ext hresult hchannel

theorem write_inward {r : WriteResult} (h : ByteStream.write data e = (r, e')) :
    e.pipe.inward.write data = (r, e'.pipe.inward) := by
  have hresult := congrArg Prod.fst h
  have hchannel := congrArg (·.2.pipe.inward) h
  exact Prod.ext hresult hchannel

theorem read_ne_failed : ByteStream.read room e ≠ (.failed cause, e') :=
  fun h => Channel.read_ne_failed (read_outward h)

theorem flush_ne_failed : ByteStream.flush e ≠ (.failed cause, e') := nofun

/-- What the far end gives is the first of what goes outward. -/
theorem buffer_eq_of_gives (h : Gives e data e') :
    e.pipe.outward.buffer = data ++ e'.pipe.outward.buffer := by
  cases h with
  | untouched => rfl
  | read h => exact Channel.buffer_eq_of_read (read_outward h)
  | failed h => exact absurd h read_ne_failed

/-- What is written at the far end does not change what goes outward. -/
theorem outward_of_takes (h : Takes e data e') : e'.pipe.outward = e.pipe.outward := by
  cases h with
  | untouched => rfl
  | wrote h => exact congrArg (·.2.pipe.outward) h.symm
  | writeFailed h => exact congrArg (·.2.pipe.outward) h.symm
  | flushed h => exact congrArg (·.2.pipe.outward) h.symm
  | flushFailed h => exact congrArg (·.2.pipe.outward) h.symm

/-- What is read at the far end does not come from what goes inward. -/
theorem inward_of_gives (h : Gives e data e') : e'.pipe.inward = e.pipe.inward := by
  cases h with
  | untouched => rfl
  | read h => exact congrArg (·.2.pipe.inward) h.symm
  | failed h => exact congrArg (·.2.pipe.inward) h.symm

/-- Nothing is written inward once it is closed. -/
theorem inward_of_takes (h : Takes e data e') (hclosed : e.pipe.inward.isClosed = true) :
    e'.pipe.inward = e.pipe.inward := by
  cases h with
  | untouched => rfl
  | wrote h =>
    have hopen := (Channel.eq_of_write (write_inward h)).1
    rw [hclosed] at hopen
    cases hopen
  | writeFailed h => exact (Channel.eq_of_write_failed (write_inward h)).2
  | flushed h => exact congrArg (·.2.pipe.inward) h.symm
  | flushFailed h => exact absurd h flush_ne_failed

/-- A write at the far end fails when what goes inward is closed. -/
theorem write_of_closed (hclosed : e.pipe.inward.isClosed = true) (data : Bytes) :
    ByteStream.write data e = (.failed .brokenPipe, e) := by
  simp only [ByteStream.write, Channel.write, hclosed, if_true]

/-- When the far end is shut down, what goes inward is closed. -/
theorem eq_of_shutDown? (h : ByteStream.shutDown? e = some e') :
    e' = ⟨{ e.pipe with inward := ⟨e.pipe.inward.buffer, true⟩ }⟩ :=
  (Option.some.inj h).symm

end FarEnd

end Gatehouse
