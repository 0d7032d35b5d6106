import Gatehouse.Proofs.Pump.Counts

/-!
# The steps of a pump, direction by direction

A step of a pump moves the copy of one direction and leaves the other copy as it is. What it does
to the streams is seen in their histories: the source of the copy answers a read, or its sink a
write or a flush. What the pump is to return is decided just if the copy ends with the step. Said in
this way a step looks the same in both directions, whatever the streams are. The steps that release
the streams change neither the copies nor what is decided.

A chunk is completed when it has been written and flushed, so the chunks that a direction has
completed are the first ones that its source has given, as many as its sink was flushed. These are
what the direction has counted.

## Main definitions

* `Copy.Trace`: a move of a copy with what it leaves in the histories of source and sink.
* `PumpSession.Progress`: a step of a pump in one direction.
* `answers`, `chunks`, `flushes`: the reads that a stream has answered, the chunks that it has
  given, and how often it was flushed.
* `Copy.Completes`: a copy has counted the chunks that it has completed.

## Main results

* `PumpSession.progress_of_step`, `PumpSession.parting_of_release`: the steps of a pump.
* `PumpSession.completes_of_run`: in every run, each direction has counted what it has completed.
-/

namespace Gatehouse

/-! ### What a history tells -/

/-- The reads that a history has answered: with bytes, with the end of the stream, or with a
failure. -/
def answers (history : List StreamEvent) : List StreamEvent :=
  history.filter fun
    | .gave _ | .readFailed _ => true
    | _ => false

/-- The chunks that a history has given. -/
def chunks (history : List StreamEvent) : List Bytes :=
  history.filterMap fun
    | .gave [] => none
    | .gave data => some data
    | _ => none

/-- How often a history was flushed. -/
def flushes (history : List StreamEvent) : Nat := history.count .flushed

theorem answers_append (first rest : List StreamEvent) :
    answers (first ++ rest) = answers first ++ answers rest := List.filter_append ..

theorem chunks_append (first rest : List StreamEvent) :
    chunks (first ++ rest) = chunks first ++ chunks rest := List.filterMap_append

theorem flushes_append (first rest : List StreamEvent) :
    flushes (first ++ rest) = flushes first + flushes rest := List.count_append

theorem chunks_gave {data : Bytes} (h : data ≠ []) : chunks [.gave data] = [data] := by
  obtain ⟨x, data, rfl⟩ := List.exists_cons_of_ne_nil h
  rfl

/-- Parting from a stream gives no chunk. -/
theorem chunks_of_parting {events : List StreamEvent} (h : events.all (·.isParting) = true) :
    chunks events = [] := by
  refine List.filterMap_eq_nil_iff.2 fun e he => ?_
  have hparting := List.all_eq_true.1 h e he
  cases e <;> first | rfl | cases hparting

/-- Parting from a stream answers no read. -/
theorem answers_of_parting {events : List StreamEvent} (h : events.all (·.isParting) = true) :
    answers events = [] := by
  refine List.filter_eq_nil_iff.2 fun e he => ?_
  have hparting := List.all_eq_true.1 h e he
  cases e <;> first | exact absurd hparting Bool.false_ne_true | simp

/-- Parting from a stream does not flush it. -/
theorem flushes_of_parting {events : List StreamEvent} (h : events.all (·.isParting) = true) :
    flushes events = 0 := by
  refine List.count_eq_zero.2 fun hmem => ?_
  cases List.all_eq_true.1 h _ hmem

/-! ### A move of a copy in the histories -/

/-- The other direction. -/
def Direction.opposite : Direction → Direction
  | .aToB => .bToA
  | .bToA => .aToB

theorem Direction.opposite_ne (dir : Direction) : dir.opposite ≠ dir := by
  cases dir <;> nofun

theorem Direction.eq_or_eq_opposite (dir other : Direction) :
    other = dir ∨ other = dir.opposite := by
  cases dir <;> cases other <;> simp [opposite]

namespace Copy

/-- What a copy has ended with, if it has ended. -/
def ending? (c : Copy) : Option (Option IoError) :=
  match c.phase with
  | .ended failure => some failure
  | _ => none

theorem ending?_eq_some {c : Copy} {failure : Option IoError} (h : c.phase = .ended failure) :
    c.ending? = some failure := by
  simp [ending?, h]

theorem ending?_eq_none {c : Copy} (h : ∀ failure, c.phase ≠ .ended failure) :
    c.ending? = none := by
  unfold ending?
  split
  next hphase => exact absurd hphase (h _)
  next => rfl

/-- A move of a copy, with what it adds to the histories of its source and of its sink. It times
out only if its source is silent. -/
inductive Trace (limit : Option Nat) (now : Nat) (silent : Prop) (c : Copy) :
    Copy → (given taken : List StreamEvent) → Prop
  | timedOut {since : Nat} (hphase : c.phase = .reading since) (hsilent : silent)
      (hidle : isIdle limit since now = true) :
      Trace limit now silent c (c.finish (some .idleTimeout)) [] []
  | readFailed {since : Nat} {cause : IoError} (hphase : c.phase = .reading since) :
      Trace limit now silent c (c.finish (some cause)) [.readFailed cause] []
  | sourceEnded {since : Nat} (hphase : c.phase = .reading since) :
      Trace limit now silent c (c.finish none) [.gave []] []
  | gotChunk {since : Nat} {data : Bytes} (hphase : c.phase = .reading since)
      (hdata : data ≠ []) :
      Trace limit now silent c { c with phase := .writing data data.length } [.gave data] []
  | writeFailed {rest : Bytes} {size : Nat} {cause : IoError}
      (hphase : c.phase = .writing rest size) :
      Trace limit now silent c (c.finish (some cause)) [] [.writeFailed cause]
  | wroteNothing {rest : Bytes} {size : Nat} (hphase : c.phase = .writing rest size) :
      Trace limit now silent c (c.finish (some .writeZero)) [] [.took []]
  | wroteSome {rest : Bytes} {size : Nat} (n : Nat) (hphase : c.phase = .writing rest size) :
      Trace limit now silent c { c with phase := .writing (rest.drop n) size } []
        [.took (rest.take n)]
  | wroteAll {rest : Bytes} {size : Nat} (n : Nat) (hphase : c.phase = .writing rest size) :
      Trace limit now silent c { c with phase := .flushing size } [] [.took (rest.take n)]
  | flushFailed {size : Nat} {cause : IoError} (hphase : c.phase = .flushing size) :
      Trace limit now silent c (c.finish (some cause)) [] [.flushFailed cause]
  | flushed {size : Nat} (hphase : c.phase = .flushing size) :
      Trace limit now silent c ⟨.reading now, c.count + size⟩ [] [.flushed]

section

variable {α β : Type} [ByteStream α] [ByteStream β] {limit : Option Nat} {now : Nat} {c c' : Copy}
  {source source' : Recorded α} {sink sink' : Recorded β}

/-- A move of a copy between recorded streams leaves its trace in their histories. -/
theorem Move.exists_trace (h : Move limit now c source sink c' source' sink') :
    ∃ given taken,
      Trace limit now ((ByteStream.read bufferSize source).1 = .blocked) c c' given taken ∧
        source'.history = source.history ++ given ∧ sink'.history = sink.history ++ taken := by
  have hsame (r : List StreamEvent) : r = r ++ [] := (List.append_nil r).symm
  cases h with
  | timedOut hphase hread hidle =>
    exact ⟨[], [], .timedOut hphase (congrArg Prod.fst hread) hidle, hsame _, hsame _⟩
  | readFailed hphase hread =>
    exact ⟨_, [], .readFailed hphase, Recorded.read_failed hread, hsame _⟩
  | sourceEnded hphase hread =>
    exact ⟨_, [], .sourceEnded hphase, Recorded.read_bytes hread, hsame _⟩
  | gotChunk hphase hread hdata =>
    exact ⟨_, [], .gotChunk hphase hdata, Recorded.read_bytes hread, hsame _⟩
  | writeFailed hphase hwrite =>
    exact ⟨[], _, .writeFailed hphase, hsame _, Recorded.write_failed hwrite⟩
  | wroteNothing hphase hwrite =>
    exact ⟨[], _, .wroteNothing hphase, hsame _, Recorded.write_accepted hwrite⟩
  | @wroteSome _ _ n _ hphase hwrite =>
    exact ⟨[], _, .wroteSome n hphase, hsame _, Recorded.write_accepted hwrite⟩
  | @wroteAll _ _ n _ hphase hwrite =>
    exact ⟨[], _, .wroteAll n hphase, hsame _, Recorded.write_accepted hwrite⟩
  | flushFailed hphase hflush =>
    exact ⟨[], _, .flushFailed hphase, hsame _, Recorded.flush_failed hflush⟩
  | flushed hphase hflush =>
    exact ⟨[], _, .flushed hphase, hsame _, Recorded.flush_flushed hflush⟩

end

variable {limit : Option Nat} {now : Nat} {silent : Prop} {c c' : Copy}
  {given taken : List StreamEvent}

/-- A read begins when it is announced, and a copy reads again only after a flush. -/
theorem Trace.since_eq (h : Trace limit now silent c c' given taken) {since : Nat}
    (hphase : c'.phase = .reading since) : since = now := by
  cases h with
  | flushed =>
    cases hphase
    rfl
  | _ => cases hphase

/-- While a copy reads, its sink is not touched, and its read is answered, unless it times out. -/
theorem Trace.of_reading (h : Trace limit now silent c c' given taken) {since : Nat}
    (hphase : c.phase = .reading since) :
    c' = c.finish (some .idleTimeout) ∨ answers given ≠ [] := by
  cases h with
  | timedOut => exact .inl rfl
  | readFailed | sourceEnded | gotChunk => exact .inr (List.cons_ne_nil _ _)
  | writeFailed h | wroteNothing h | wroteSome _ h | wroteAll _ h | flushFailed h | flushed h =>
    rw [hphase] at h
    cases h

/-- Writing to a stream answers no read of it. -/
theorem Trace.answers_taken (h : Trace limit now silent c c' given taken) : answers taken = [] := by
  cases h <;> rfl

end Copy

/-! ### A step of a pump in the histories -/

namespace PumpSession

section

variable {α β : Type} (s : PumpSession α β)

theorem sourceHistory_opposite (dir : Direction) :
    s.sourceHistory dir.opposite = s.sinkHistory dir := by
  cases dir <;> rfl

theorem sinkHistory_opposite (dir : Direction) :
    s.sinkHistory dir.opposite = s.sourceHistory dir := by
  cases dir <;> rfl

end

variable {α β : Type} [ByteStream α] [ByteStream β] {limit : Option Nat} {now : Nat}
  {dir : Direction} {s s' : PumpSession α β}

/-- The stream that a direction reads has nothing to give: no bytes, no end and no failure. -/
def IsSilent (s : PumpSession α β) : Direction → Prop
  | .aToB => (ByteStream.read Copy.bufferSize s.a).1 = .blocked
  | .bToA => (ByteStream.read Copy.bufferSize s.b).1 = .blocked

/-- A step of a pump in one direction: it moves the copy of this direction, and what is returned is
decided just if the copy ends. -/
structure Progress (limit : Option Nat) (now : Nat) (dir : Direction) (s s' : PumpSession α β) :
    Prop where
  running : s.pump.verdict? = none
  other : s'.pump.copy dir.opposite = s.pump.copy dir.opposite
  verdict?_eq : s'.pump.verdict? = (s'.pump.copy dir).ending?.map (PumpOutcome.mk dir)
  exists_trace : ∃ given taken,
    Copy.Trace limit now (s.IsSilent dir) (s.pump.copy dir) (s'.pump.copy dir) given taken ∧
      s'.sourceHistory dir = s.sourceHistory dir ++ given ∧
      s'.sinkHistory dir = s.sinkHistory dir ++ taken

theorem progress_of_transition {p : Pump} {a : Recorded α} {b : Recorded β}
    (h : Pump.Transition limit now s.pump s.a s.b dir p a b) :
    Progress limit now dir s ⟨p, a, b⟩ := by
  cases h with
  | forth hrunning hmove hphase | back hrunning hmove hphase =>
    refine ⟨Pump.verdict?_of_stage hrunning, rfl, ?_, hmove.exists_trace⟩
    rw [Pump.copy, Copy.ending?_eq_none hphase]
    exact Pump.verdict?_of_stage hrunning
  | forthEnded hrunning hmove hphase | backEnded hrunning hmove hphase =>
    refine ⟨Pump.verdict?_of_stage hrunning, rfl, ?_, hmove.exists_trace⟩
    rw [Pump.copy, Copy.ending?_eq_some hphase]
    rfl

/-- A step of a pump is one in one direction. -/
theorem progress_of_step (h : step limit s (.copy dir now) = some s') :
    Progress limit now dir s s' := by
  obtain ⟨⟨p, a, b⟩, hstep, rfl⟩ := Option.map_eq_some_iff.1 h
  exact progress_of_transition (Pump.transition_of_step hstep)

/-- What a release leaves of a session: the copies and what is returned stay, and the streams are
only parted from. -/
theorem parting_of_release (h : step limit s .release = some s') :
    (∃ o, s.pump.verdict? = some o) ∧ s'.pump.verdict? = s.pump.verdict? ∧ ∀ d,
      s'.pump.copy d = s.pump.copy d ∧ ∃ given taken,
        s'.sourceHistory d = s.sourceHistory d ++ given ∧ given.all (·.isParting) = true ∧
        s'.sinkHistory d = s.sinkHistory d ++ taken ∧ taken.all (·.isParting) = true := by
  obtain ⟨⟨p, a, b⟩, hrelease, rfl⟩ := Option.map_eq_some_iff.1 h
  have h := Pump.release_eq_some_iff.1 hrelease
  obtain ⟨⟨as, ha, has⟩, bs, hb, hbs⟩ := h.parts
  refine ⟨h.exists_verdict, h.verdict?_eq, fun d => ⟨h.copy_eq d, ?_⟩⟩
  cases d with
  | aToB => exact ⟨as, bs, ha, has, hb, hbs⟩
  | bToA => exact ⟨bs, as, hb, hbs, ha, has⟩

/-- What happens outside is not seen in the histories. -/
theorem history_of_outside {a : α} {b : β} (h : step limit s (.outside a b) = some s') :
    s'.pump = s.pump ∧ ∀ d, s'.sourceHistory d = s.sourceHistory d ∧
      s'.sinkHistory d = s.sinkHistory d := by
  cases h
  exact ⟨rfl, fun d => by cases d <;> exact ⟨rfl, rfl⟩⟩

end PumpSession

/-! ### Completed chunks -/

namespace Copy

/-- The size of the chunk at hand, if there is one. -/
def sizeAtHand? (c : Copy) : Option Nat :=
  match c.phase with
  | .writing _ size | .flushing size => some size
  | _ => none

/-- A copy has counted the chunks that it has completed: the first ones that its source has given,
as many as its sink was flushed. Only the last one may be at hand. -/
structure Completes (c : Copy) (source sink : List StreamEvent) : Prop where
  count_eq : c.count = ((chunks source).take (flushes sink)).flatten.length
  flushes_le : flushes sink ≤ (chunks source).length
  length_le : (chunks source).length ≤ flushes sink + 1
  at_rest : ∀ since, c.phase = .reading since → (chunks source).length = flushes sink
  at_hand : ∀ size ∈ c.sizeAtHand?, ∃ before last, chunks source = before ++ [last] ∧
    flushes sink = before.length ∧ size = last.length

theorem completes_start (now : Nat) : (start now).Completes [] [] where
  count_eq := rfl
  flushes_le := Nat.le_refl 0
  length_le := Nat.zero_le 1
  at_rest _ _ := rfl
  at_hand := nofun

variable {limit : Option Nat} {now : Nat} {silent : Prop} {c c' : Copy}
  {source source' sink sink' given taken : List StreamEvent}

/-- Nothing changes as long as no chunk is given, none is completed, and none is taken up. -/
theorem Completes.of_eq (hc : c.Completes source sink) (hchunks : chunks source' = chunks source)
    (hflushes : flushes sink' = flushes sink) (hcount : c'.count = c.count)
    (hrest : ∀ since, c'.phase = .reading since → c.phase = .reading since)
    (hhand : ∀ size ∈ c'.sizeAtHand?, size ∈ c.sizeAtHand?) : c'.Completes source' sink' where
  count_eq := by rw [hcount, hchunks, hflushes, hc.count_eq]
  flushes_le := by rw [hchunks, hflushes]; exact hc.flushes_le
  length_le := by rw [hchunks, hflushes]; exact hc.length_le
  at_rest since h := by rw [hchunks, hflushes]; exact hc.at_rest since (hrest since h)
  at_hand size h := by rw [hchunks, hflushes]; exact hc.at_hand size (hhand size h)

/-- A copy that has ended completes no more chunks. -/
theorem Completes.finish (hc : c.Completes source sink) (failure : Option IoError)
    (hchunks : chunks given = []) (hflushes : flushes taken = 0) :
    (c.finish failure).Completes (source ++ given) (sink ++ taken) :=
  hc.of_eq (by rw [chunks_append, hchunks, List.append_nil])
    (by rw [flushes_append, hflushes, Nat.add_zero]) rfl nofun nofun

/-- Every move of a copy keeps what it has counted. -/
theorem Completes.of_trace (h : Trace limit now silent c c' given taken)
    (hc : c.Completes source sink) : c'.Completes (source ++ given) (sink ++ taken) := by
  cases h with
  | timedOut | readFailed | sourceEnded | writeFailed | wroteNothing | flushFailed =>
    exact hc.finish _ rfl rfl
  | @gotChunk since data hphase hdata =>
    have hrest := hc.at_rest since hphase
    have hchunks : chunks (source ++ [.gave data]) = chunks source ++ [data] := by
      rw [chunks_append, chunks_gave hdata]
    rw [List.append_nil]
    refine ⟨?_, ?_, ?_, nofun, ?_⟩
    · rw [hchunks, ← hrest, List.take_left, hc.count_eq, ← hrest, List.take_length]
    · rw [hchunks, List.length_append, hrest]
      exact Nat.le_add_right _ _
    · rw [hchunks, List.length_append, hrest]
      exact Nat.le_refl _
    · rintro size ⟨⟩
      exact ⟨chunks source, data, hchunks, hrest.symm, rfl⟩
  | wroteSome n hphase =>
    refine hc.of_eq (by rw [List.append_nil]) (flushes_append _ _) rfl nofun fun size h => ?_
    simpa [sizeAtHand?, hphase] using h
  | wroteAll n hphase =>
    refine hc.of_eq (by rw [List.append_nil]) (flushes_append _ _) rfl nofun fun size h => ?_
    simpa [sizeAtHand?, hphase] using h
  | @flushed size hphase =>
    obtain ⟨before, last, hchunks, hflushes, hsize⟩ :=
      hc.at_hand size (by simp [sizeAtHand?, hphase])
    have hmore : flushes (sink ++ [.flushed]) = (chunks source).length := by
      rw [flushes_append, hflushes, hchunks, List.length_append]
      rfl
    rw [List.append_nil]
    refine ⟨?_, hmore.le, hmore.ge.trans (Nat.le_succ _), fun _ _ => hmore.symm, nofun⟩
    rw [hmore, List.take_length, hc.count_eq, hflushes, hchunks, List.take_left, hsize,
      List.flatten_append, List.length_append]
    simp

/-- Writing to a stream and flushing it do not make it give a chunk. -/
theorem Trace.chunks_taken (h : Trace limit now silent c c' given taken) : chunks taken = [] := by
  cases h <;> rfl

/-- Reading from a stream does not flush it. -/
theorem Trace.flushes_given (h : Trace limit now silent c c' given taken) :
    flushes given = 0 := by
  cases h <;> rfl

end Copy

namespace PumpSession

/-- Each direction of a session has counted the chunks that it has completed. -/
def Completes {α β : Type} (s : PumpSession α β) : Prop :=
  ∀ d, (s.pump.copy d).Completes (s.sourceHistory d) (s.sinkHistory d)

theorem completes_start {α β : Type} (now : Nat) (a : α) (b : β) : (start now a b).Completes := by
  intro d
  cases d <;> exact Copy.completes_start now

variable {α β : Type} [ByteStream α] [ByteStream β] {limit : Option Nat} {now : Nat}
  {dir : Direction} {s s' : PumpSession α β}

/-- A step in one direction keeps what both have counted. -/
theorem Completes.of_progress (h : Progress limit now dir s s') (hs : s.Completes) :
    s'.Completes := by
  obtain ⟨given, taken, htrace, hsource, hsink⟩ := h.exists_trace
  intro d
  rcases dir.eq_or_eq_opposite d with rfl | rfl
  · rw [hsource, hsink]
    exact (hs d).of_trace htrace
  · rw [h.other, sourceHistory_opposite, sinkHistory_opposite, hsource, hsink]
    refine Copy.Completes.of_eq (hs dir.opposite) ?_ ?_ rfl (fun _ h => h) fun _ h => h
    · simp [chunks_append, htrace.chunks_taken, sourceHistory_opposite]
    · simp [flushes_append, htrace.flushes_given, sinkHistory_opposite]

theorem Completes.of_step {m : PumpMove α β} (h : step limit s m = some s') (hs : s.Completes) :
    s'.Completes := by
  cases m with
  | copy dir now => exact hs.of_progress (progress_of_step h)
  | release =>
    obtain ⟨-, -, hparting⟩ := parting_of_release h
    intro d
    obtain ⟨hcopy, given, taken, hsource, hgiven, hsink, htaken⟩ := hparting d
    rw [hcopy, hsource, hsink]
    refine (hs d).of_eq ?_ ?_ rfl (fun _ h => h) fun _ h => h
    · rw [chunks_append, chunks_of_parting hgiven, List.append_nil]
    · rw [flushes_append, flushes_of_parting htaken, Nat.add_zero]
  | outside a b =>
    obtain ⟨hpump, hhistory⟩ := history_of_outside h
    intro d
    rw [hpump, (hhistory d).1, (hhistory d).2]
    exact hs d

theorem completes_of_run {a : α} {b : β} {moves : List (PumpMove α β)}
    (hrun : (start now a b).run limit moves = some s) : s.Completes :=
  foldlM_induction (fun h hs => Completes.of_step h hs) hrun (completes_start now a b)

end PumpSession

end Gatehouse
