import Gatehouse.Proofs.Stream.Recorded
import Gatehouse.Pump.Basic
import Mathlib.Data.List.Basic

/-!
# How bytes flow through a copy

A step of one direction of a pump reads a chunk, writes a part of the chunk at hand, flushes, or
ends the direction. This file lists these moves and what each does with the bytes: what a copy
holds and what it reads is what it writes and then holds, unless it fails, when it drops what it
holds.

## Main definitions

* `Copy.Move`: the moves of a copy.
* `Copy.unwritten`: the bytes that a copy has read and has still to write.
* `Copy.uncounted`: the number of bytes that it has written and not yet counted.
* `Copy.HasFailed`, `Copy.IsSound`: a copy that has failed, and one that can come about.
* `Copy.Carried`: what a copy has done with the bytes given to it.

## Main results

* `Copy.step_eq_some_iff`: a step is a move.
* `Copy.Move.flow`: what a move does with the bytes and the count.
* `Copy.Carried.of_move`: a move carries the bytes on.
-/

namespace Gatehouse

namespace Copy

variable {α β : Type} [ByteStream α] [ByteStream β]

/-! ### The moves of a copy -/

/-- A move of a copy from a source to a sink. -/
inductive Move (limit : Option Nat) (now : Nat) (c : Copy) (source : α) (sink : β) :
    Copy → α → β → Prop
  | timedOut {since : Nat} {source' : α} (hphase : c.phase = .reading since)
      (hread : ByteStream.read bufferSize source = (.blocked, source'))
      (hidle : isIdle limit since now = true) :
      Move limit now c source sink (c.finish (some .idleTimeout)) source sink
  | readFailed {since : Nat} {cause : IoError} {source' : α} (hphase : c.phase = .reading since)
      (hread : ByteStream.read bufferSize source = (.failed cause, source')) :
      Move limit now c source sink (c.finish (some cause)) source' sink
  | sourceEnded {since : Nat} {source' : α} (hphase : c.phase = .reading since)
      (hread : ByteStream.read bufferSize source = (.bytes [], source')) :
      Move limit now c source sink (c.finish none) source' sink
  | gotChunk {since : Nat} {data : Bytes} {source' : α} (hphase : c.phase = .reading since)
      (hread : ByteStream.read bufferSize source = (.bytes data, source')) (hdata : data ≠ []) :
      Move limit now c source sink { c with phase := .writing data data.length } source' sink
  | writeFailed {rest : Bytes} {size : Nat} {cause : IoError} {sink' : β}
      (hphase : c.phase = .writing rest size)
      (hwrite : ByteStream.write rest sink = (.failed cause, sink')) :
      Move limit now c source sink (c.finish (some cause)) source sink'
  | wroteNothing {rest : Bytes} {size : Nat} {sink' : β} (hphase : c.phase = .writing rest size)
      (hwrite : ByteStream.write rest sink = (.accepted 0, sink')) :
      Move limit now c source sink (c.finish (some .writeZero)) source sink'
  | wroteSome {rest : Bytes} {size n : Nat} {sink' : β} (hphase : c.phase = .writing rest size)
      (hwrite : ByteStream.write rest sink = (.accepted n, sink')) (hn : n ≠ 0)
      (hrest : rest.drop n ≠ []) :
      Move limit now c source sink { c with phase := .writing (rest.drop n) size } source sink'
  | wroteAll {rest : Bytes} {size n : Nat} {sink' : β} (hphase : c.phase = .writing rest size)
      (hwrite : ByteStream.write rest sink = (.accepted n, sink')) (hn : n ≠ 0)
      (hrest : rest.drop n = []) :
      Move limit now c source sink { c with phase := .flushing size } source sink'
  | flushFailed {size : Nat} {cause : IoError} {sink' : β} (hphase : c.phase = .flushing size)
      (hflush : ByteStream.flush sink = (.failed cause, sink')) :
      Move limit now c source sink (c.finish (some cause)) source sink'
  | flushed {size : Nat} {sink' : β} (hphase : c.phase = .flushing size)
      (hflush : ByteStream.flush sink = (.flushed, sink')) :
      Move limit now c source sink ⟨.reading now, c.count + size⟩ source sink'

variable {limit : Option Nat} {now : Nat} {c c' : Copy} {source source' : α} {sink sink' : β}

/-- A step of a copy is one of its moves. -/
theorem step_eq_some_iff :
    c.step limit now source sink = some (c', source', sink') ↔
      Move limit now c source sink c' source' sink' := by
  constructor
  · intro h
    unfold step at h
    split at h
    next => cases h
    next since hphase =>
      split at h
      next hread =>
        split_ifs at h with hidle
        cases h
        exact .timedOut hphase hread hidle
      next hread => cases h; exact .readFailed hphase hread
      next hread => cases h; exact .sourceEnded hphase hread
      next hdata hread =>
        cases h
        exact .gotChunk hphase hread hdata
    next rest size hphase =>
      split at h
      next => cases h
      next hwrite => cases h; exact .writeFailed hphase hwrite
      next hwrite => cases h; exact .wroteNothing hphase hwrite
      next hn hwrite =>
        cases h
        split_ifs with hrest
        · exact .wroteAll hphase hwrite hn hrest
        · exact .wroteSome hphase hwrite hn hrest
    next size hphase =>
      split at h
      next => cases h
      next hflush => cases h; exact .flushFailed hphase hflush
      next hflush => cases h; exact .flushed hphase hflush
  · intro h
    cases h with
    | timedOut hphase hread hidle => simp [step, hphase, hread, hidle]
    | readFailed hphase hread => simp [step, hphase, hread]
    | sourceEnded hphase hread => simp [step, hphase, hread]
    | @gotChunk _ data _ hphase hread hdata =>
      cases data with
      | nil => exact absurd rfl hdata
      | cons x data => simp [step, hphase, hread]
    | writeFailed hphase hwrite => simp [step, hphase, hwrite]
    | wroteNothing hphase hwrite => simp [step, hphase, hwrite]
    | @wroteSome _ _ n _ hphase hwrite hn hrest =>
      cases n with
      | zero => exact absurd rfl hn
      | succ n => simp only [step, hphase, hwrite, if_neg hrest]
    | @wroteAll _ _ n _ hphase hwrite hn hrest =>
      cases n with
      | zero => exact absurd rfl hn
      | succ n => simp only [step, hphase, hwrite, if_pos hrest]
    | flushFailed hphase hflush => simp [step, hphase, hflush]
    | flushed hphase hflush => simp [step, hphase, hflush]

/-! ### What a copy holds -/

/-- The bytes that a copy has read and has still to write. -/
def unwritten (c : Copy) : Bytes :=
  match c.phase with
  | .writing rest _ => rest
  | _ => []

/-- The number of bytes that a copy has written and not yet counted. -/
def uncounted (c : Copy) : Nat :=
  match c.phase with
  | .writing rest size => size - rest.length
  | .flushing size => size
  | _ => 0

/-- A copy that has ended with a failure. -/
def HasFailed (c : Copy) : Prop := ∃ cause, c.phase = .ended (some cause)

/-- What a copy has still to write is a part, not empty, of the chunk that it has read. -/
def IsSound (c : Copy) : Prop :=
  ∀ rest size, c.phase = .writing rest size → rest ≠ [] ∧ rest.length ≤ size

theorem isSound_start (now : Nat) : (start now).IsSound := nofun

theorem unwritten_of_ended {c : Copy} {failure : Option IoError} (h : c.phase = .ended failure) :
    c.unwritten = [] := by
  simp [unwritten, h]

theorem hasFailed_finish (c : Copy) (cause : IoError) : (c.finish (some cause)).HasFailed :=
  ⟨cause, rfl⟩

/-- A copy that has failed makes no move. -/
theorem Move.not_hasFailed (h : Move limit now c source sink c' source' sink') :
    ¬ c.HasFailed := by
  rintro ⟨cause, hended⟩
  cases h <;> simp_all

theorem Move.isSound (h : Move limit now c source sink c' source' sink') (hc : c.IsSound) :
    c'.IsSound := by
  cases h with
  | gotChunk hphase hread hdata =>
    rintro rest size ⟨⟩
    exact ⟨hdata, Nat.le_refl _⟩
  | @wroteSome rest size n _ hphase hwrite hn hrest =>
    rintro _ _ ⟨⟩
    have hle := (hc rest size hphase).2
    exact ⟨hrest, by rw [List.length_drop]; omega⟩
  | _ => exact nofun

/-- A move reads bytes from the source and writes bytes to the sink. What the copy held and what
it reads is what it writes and what it then holds, and it counts what it writes sooner or later.
If it fails, it has read, written and counted nothing in this move. -/
theorem Move.flow (h : Move limit now c source sink c' source' sink') (hc : c.IsSound) :
    ∃ input output, Gives source input source' ∧ Takes sink output sink' ∧
      (c'.HasFailed ∧ input = [] ∧ output = [] ∧ c'.count = c.count ∨
        ¬ c'.HasFailed ∧ c.unwritten ++ input = output ++ c'.unwritten ∧
          c'.count + c'.uncounted = c.count + c.uncounted + output.length) := by
  cases h with
  | timedOut hphase hread hidle =>
    exact ⟨[], [], .untouched, .untouched, .inl ⟨hasFailed_finish _ _, rfl, rfl, rfl⟩⟩
  | readFailed hphase hread =>
    exact ⟨[], [], .failed hread, .untouched, .inl ⟨hasFailed_finish _ _, rfl, rfl, rfl⟩⟩
  | sourceEnded hphase hread =>
    refine ⟨[], [], .read hread, .untouched, .inr ⟨?_, ?_, ?_⟩⟩
    · rintro ⟨cause, ⟨⟩⟩
    · simp [unwritten, finish, hphase]
    · simp [uncounted, finish, hphase]
  | @gotChunk _ data _ hphase hread hdata =>
    refine ⟨data, [], .read hread, .untouched, .inr ⟨?_, ?_, ?_⟩⟩
    · rintro ⟨cause, ⟨⟩⟩
    · simp [unwritten, hphase]
    · simp [uncounted, hphase]
  | writeFailed hphase hwrite =>
    exact ⟨[], [], .untouched, .writeFailed hwrite, .inl ⟨hasFailed_finish _ _, rfl, rfl, rfl⟩⟩
  | @wroteNothing rest _ _ hphase hwrite =>
    exact ⟨[], rest.take 0, .untouched, .wrote hwrite,
      .inl ⟨hasFailed_finish _ _, rfl, rfl, rfl⟩⟩
  | @wroteSome rest size n _ hphase hwrite hn hrest =>
    have hle := (hc rest size hphase).2
    refine ⟨[], rest.take n, .untouched, .wrote hwrite, .inr ⟨?_, ?_, ?_⟩⟩
    · rintro ⟨cause, ⟨⟩⟩
    · simp [unwritten, hphase]
    · simp only [uncounted, hphase, List.length_drop, List.length_take]
      omega
  | @wroteAll rest size n _ hphase hwrite hn hrest =>
    have hle := (hc rest size hphase).2
    have hlength := congrArg List.length hrest
    rw [List.length_drop, List.length_nil] at hlength
    refine ⟨[], rest.take n, .untouched, .wrote hwrite, .inr ⟨?_, ?_, ?_⟩⟩
    · rintro ⟨cause, ⟨⟩⟩
    · simp [unwritten, hphase, List.take_of_length_le (Nat.le_of_sub_eq_zero hlength)]
    · simp only [uncounted, hphase, List.length_take]
      omega
  | flushFailed hphase hflush =>
    exact ⟨[], [], .untouched, .flushFailed hflush, .inl ⟨hasFailed_finish _ _, rfl, rfl, rfl⟩⟩
  | flushed hphase hflush =>
    refine ⟨[], [], .untouched, .flushed hflush, .inr ⟨?_, ?_, ?_⟩⟩
    · rintro ⟨cause, ⟨⟩⟩
    · simp [unwritten, hphase]
    · simp [uncounted, hphase]

/-- A copy ends without a failure only when its source gives the end of the stream. -/
theorem Move.read_of_ended (h : Move limit now c source sink c' source' sink')
    (hended : c'.phase = .ended none) :
    ByteStream.read bufferSize source = (.bytes [], source') := by
  cases h with
  | sourceEnded hphase hread => exact hread
  | _ => simp_all [finish]

/-! ### What a copy has done -/

/-- A copy has carried bytes if its sink has taken, in order, the first of the bytes that its
source has given. As long as it has not failed, it holds all others, and what it has counted and
has still to count is what the sink has taken. -/
structure Carried (c : Copy) (given taken : Bytes) : Prop where
  isPrefix : taken <+: given
  count_le : c.count ≤ taken.length
  taken_append : ¬ c.HasFailed → taken ++ c.unwritten = given
  count_add : ¬ c.HasFailed → c.count + c.uncounted = taken.length

theorem carried_start (now : Nat) : (start now).Carried [] [] where
  isPrefix := List.prefix_rfl
  count_le := Nat.le_refl 0
  taken_append _ := rfl
  count_add _ := rfl

/-- A move carries the bytes on. -/
theorem Carried.of_move {given taken : Bytes} (hcarried : c.Carried given taken)
    (h : Move limit now c source sink c' source' sink') (hc : c.IsSound) :
    ∃ input output, Gives source input source' ∧ Takes sink output sink' ∧
      c'.Carried (given ++ input) (taken ++ output) := by
  obtain ⟨input, output, hgives, htakes, hflow⟩ := h.flow hc
  refine ⟨input, output, hgives, htakes, ?_⟩
  rcases hflow with ⟨hfailed, rfl, rfl, hcount⟩ | ⟨hfailed, hbytes, hcount⟩
  · rw [List.append_nil, List.append_nil]
    exact ⟨hcarried.isPrefix, hcount ▸ hcarried.count_le, fun h => absurd hfailed h,
      fun h => absurd hfailed h⟩
  · have hgiven := hcarried.taken_append h.not_hasFailed
    have hcounted := hcarried.count_add h.not_hasFailed
    have htaken : (taken ++ output) ++ c'.unwritten = given ++ input := by
      rw [← hgiven, List.append_assoc, List.append_assoc, hbytes]
    have hlength : c'.count + c'.uncounted = (taken ++ output).length := by
      rw [hcount, hcounted, List.length_append]
    exact ⟨⟨_, htaken⟩, by omega, fun _ => htaken, fun _ => hlength⟩

/-- A copy that has come to the end of its source has written and counted all that it was
given. -/
theorem Carried.of_ended {given taken : Bytes} (hcarried : c.Carried given taken)
    (hended : c.phase = .ended none) : taken = given ∧ c.count = given.length := by
  have hfailed : ¬ c.HasFailed := by
    rintro ⟨cause, hcause⟩
    rw [hended] at hcause
    cases hcause
  have hgiven := hcarried.taken_append hfailed
  have hcounted := hcarried.count_add hfailed
  simp only [unwritten, hended, List.append_nil] at hgiven
  simp only [uncounted, hended, Nat.add_zero, hgiven] at hcounted
  exact ⟨hgiven, hcounted⟩

end Copy

end Gatehouse
