import Gatehouse.Proofs.Pump.Progress

/-!
# When a pump times out

Each direction of a pump has a timer that starts with a read and is put away when the read is
answered. It does not run while the direction writes, and it does not care for the other direction.
A direction whose read has been pending for as long as it may, and whose source has nothing to
give, ends the copying when it takes its next step. It is decided then that the pump times out. The
pump returns so when both streams have been shut down, for which it waits without a timer.

A session is put beside a clock here. The peers change at any times and in any way, and both
directions take their steps at any times, but for one thing: the clock does not run away from a
timer. A direction is given its step at most a certain time after its timer has gone off. This
lateness may be anything; with none, timers are punctual.

## Main definitions

* `TimedSession`, `TimedMove`, `TimedSession.run`: a session with a clock, and what may happen.
* `TimedSession.Awaits`: a read is pending.
* `TimedSession.ReadFate`: what can have become of a read that was pending.
* `PumpSession.IsHeldUp`: the pump waits for a stream to be shut down.
* `PumpSession.completed`: the chunks that a direction has completed.

## Main results

* `TimedSession.transition_of_step`: the effects of the moves.
* `TimedSession.IsLookedAfter.of_transition`: no read is pending for longer than the timers allow.
* `TimedSession.ReadFate.of_transition`: what every move makes of a pending read.
* `TimedSession.exists_step_of_refused`: the timers do not stop the clock for good.
* `TimedSession.exists_overdue`: a pump times out only after a read that took too long.
* `TimedSession.outcome_of_releases`: what is decided is returned after two releases.
* `TimedSession.timeouts_of_run`: when a pump times out, and what it reports then.
* `TimedSession.held_up_after_timeout`: a pump that has timed out and does not return.
-/

namespace Gatehouse

/-! ### Failures that peers report -/

/-- The failure that an operation has reported. -/
def StreamEvent.failure? : StreamEvent → Option IoError
  | .readFailed cause | .writeFailed cause | .flushFailed cause => some cause
  | _ => none

namespace PumpSession

variable {α β : Type} (s : PumpSession α β)

/-- A peer has failed with the given cause. -/
def Reports (cause : IoError) : Prop :=
  ∃ dir, ∃ e ∈ s.sourceHistory dir, e.failure? = some cause

/-- The chunks that a direction has completed. -/
def completed (dir : Direction) : List Bytes :=
  (chunks (s.sourceHistory dir)).take (flushes (s.sinkHistory dir))

variable {s}

/-- Each direction has counted the chunks that it has completed, which are all but the one that is
at hand. -/
theorem Completes.copy (hs : s.Completes) (dir : Direction) :
    (s.pump.copy dir).count = (s.completed dir).flatten.length ∧
      s.completed dir <+: chunks (s.sourceHistory dir) ∧
      (chunks (s.sourceHistory dir)).length ≤ (s.completed dir).length + 1 := by
  refine ⟨(hs dir).count_eq, List.take_prefix _ _, ?_⟩
  rw [completed, List.length_take, Nat.min_eq_left (hs dir).flushes_le]
  exact (hs dir).length_le

/-- A pump that has returned reports what its directions have counted. -/
theorem exists_stats {o : PumpOutcome} (ho : s.pump.outcome = some o) :
    ∃ stats, s.pump.stats? = some stats ∧ stats.finished = o.finished ∧
      ∀ dir, stats.moved dir = (s.pump.copy dir).count :=
  ⟨_, Option.map_eq_some_iff.2 ⟨o, ho, rfl⟩, rfl, fun dir => by cases dir <;> rfl⟩

theorem Reports.of_source {dir : Direction} {cause : IoError} {before : List StreamEvent}
    {e : StreamEvent} (h : s.sourceHistory dir = before ++ [e])
    (he : e.failure? = some cause) : s.Reports cause :=
  ⟨dir, e, by simp [h], he⟩

variable [ByteStream α] [ByteStream β] {limit : Option Nat} {now : Nat} {dir : Direction}
  {s' : PumpSession α β}

/-- What a peer has reported when a direction ended stays reported. -/
theorem Reports.of_run {moves : List (PumpMove α β)} {cause : IoError} (h : s.Reports cause)
    (hended : s.pump.verdict?.isSome) (hrun : s.run limit moves = some s') : s'.Reports cause := by
  obtain ⟨-, -, ha, hb⟩ := settled_of_run hended hrun
  obtain ⟨dir, e, hmem, he⟩ := h
  refine ⟨dir, e, ?_, he⟩
  cases dir with
  | aToB => exact ha.history_isPrefix.subset hmem
  | bToA => exact hb.history_isPrefix.subset hmem

/-- A pump times out because a peer says so, or because a read took too long. -/
theorem Progress.of_timedOut (h : Progress limit now dir s s') {o : PumpOutcome}
    (ho : s'.pump.verdict? = some o) {cause : IoError} (hcause : o.failure = some cause)
    (hkind : cause.kind = .timedOut) :
    o.finished = dir ∧ (s'.Reports cause ∨ cause = .idleTimeout ∧ s.IsSilent dir ∧
      ∃ since, (s.pump.copy dir).phase = .reading since ∧
        Copy.isIdle limit since now = true) := by
  obtain ⟨given, taken, htrace, hsource, hsink⟩ := h.exists_trace
  rw [← sourceHistory_opposite] at hsink
  obtain ⟨failure, hending, rfl⟩ := Option.map_eq_some_iff.1 (h.verdict?_eq ▸ ho)
  refine ⟨rfl, ?_⟩
  obtain rfl : failure = some cause := hcause
  generalize s'.pump.copy dir = c' at htrace hending
  cases htrace with
  | timedOut hphase hsilent hidle =>
    cases hending
    exact .inr ⟨rfl, hsilent, _, hphase, hidle⟩
  | readFailed =>
    cases hending
    exact .inl (.of_source hsource rfl)
  | writeFailed | flushFailed =>
    cases hending
    exact .inl (.of_source hsink rfl)
  | wroteNothing =>
    cases hending
    cases hkind
  | sourceEnded | gotChunk | wroteSome | wroteAll | flushed => cases hending

end PumpSession

/-! ### Timers -/

/-- A copy whose read has been pending for as long as it may always has a step to take. -/
theorem Copy.isSome_step_of_isIdle {α β : Type} [ByteStream α] [ByteStream β] {limit : Option Nat}
    {now since : Nat} {c : Copy} (hphase : c.phase = .reading since)
    (hidle : isIdle limit since now = true) (source : α) (sink : β) :
    (c.step limit now source sink).isSome := by
  unfold step
  rw [hphase]
  rcases ByteStream.read bufferSize source with ⟨_ | (_ | _) | _, _⟩ <;> simp [hidle]

theorem Copy.isIdle_iff {limit : Option Nat} {since now : Nat} :
    isIdle limit since now = true ↔ ∃ most, limit = some most ∧ most ≤ now - since := by
  cases limit with
  | none => simp [isIdle]
  | some most => simp [isIdle]

/-- Whether the timer of a copy lets the clock go on to a time: a copy whose timer has gone off is
given its step at most `late` afterwards. -/
def Copy.admits (limit : Option Nat) (late later : Nat) (c : Copy) : Bool :=
  match limit, c.phase with
  | some most, .reading since => later ≤ since + most + late
  | _, _ => true

/-- Whether both timers of a pump let the clock go on to a time. -/
def Pump.admits (limit : Option Nat) (late later : Nat) (p : Pump) : Bool :=
  p.verdict?.isSome || p.aToB.admits limit late later && p.bToA.admits limit late later

/-- A copy that does not let the clock go on has a step to take. -/
theorem Copy.isSome_step_of_refuses {α β : Type} [ByteStream α] [ByteStream β]
    {limit : Option Nat} {late now : Nat} {c : Copy} (h : c.admits limit late (now + 1) = false)
    (source : α) (sink : β) : (c.step limit now source sink).isSome := by
  unfold admits at h
  split at h
  next most since hphase =>
    refine isSome_step_of_isIdle hphase (isIdle_iff.2 ⟨most, rfl, ?_⟩) source sink
    simp only [decide_eq_false_iff_not] at h
    omega
  next => cases h

theorem Pump.le_of_admits {p : Pump} {most late later : Nat}
    (h : p.admits (some most) late later = true) (hrunning : p.verdict? = none) {dir : Direction}
    {since : Nat} (hphase : (p.copy dir).phase = .reading since) : later ≤ since + most + late := by
  rw [admits, hrunning, Option.isSome_none, Bool.false_or, Bool.and_eq_true] at h
  have hdir : (p.copy dir).admits (some most) late later = true := by
    cases dir with
    | aToB => exact h.1
    | bToA => exact h.2
  simpa [Copy.admits, hphase] using hdir

/-! ### Sessions with a clock -/

/-- A session and the time. -/
structure TimedSession (α β : Type) where
  now : Nat
  session : PumpSession α β

/-- What may happen in a session as time goes by. -/
inductive TimedMove (α β : Type) where
  /-- One direction of the pump takes a step. -/
  | copy (dir : Direction)
  /-- The pump takes a step of shutting its streams down. -/
  | release
  /-- The peers change by themselves. -/
  | outside (a : α) (b : β)
  /-- Some time passes. -/
  | wait (elapsed : Nat)

/-- Whether a move is one of shutting streams down. -/
def TimedMove.isRelease {α β : Type} : TimedMove α β → Bool
  | .release => true
  | _ => false

namespace TimedSession

/-- A session that begins at the given time. -/
def start {α β : Type} (now : Nat) (a : α) (b : β) : TimedSession α β := ⟨now, .start now a b⟩

/-- The read of a direction is pending since a time. -/
def Awaits {α β : Type} (t : TimedSession α β) (dir : Direction) (since : Nat) : Prop :=
  t.session.pump.verdict? = none ∧ (t.session.pump.copy dir).phase = .reading since

/-- No read is pending for longer than its timer allows. -/
def IsLookedAfter {α β : Type} (limit : Option Nat) (late : Nat) (t : TimedSession α β) : Prop :=
  ∀ dir since, t.Awaits dir since →
    since ≤ t.now ∧ ∀ most, limit = some most → t.now ≤ since + most + late

theorem isLookedAfter_start {α β : Type} (limit : Option Nat) (late now : Nat) (a : α) (b : β) :
    (start now a b).IsLookedAfter limit late := by
  rintro dir since ⟨-, hphase⟩
  have hsince : since = now := by
    cases dir <;> cases hphase <;> rfl
  subst hsince
  exact ⟨Nat.le_refl _, fun most _ => Nat.le_trans (Nat.le_add_right _ _) (Nat.le_add_right _ _)⟩

variable {α β : Type} [ByteStream α] [ByteStream β]

/-- The session after a move, if it can be made. -/
def step (limit : Option Nat) (late : Nat) (t : TimedSession α β) :
    TimedMove α β → Option (TimedSession α β)
  | .copy dir => (t.session.step limit (.copy dir t.now)).map fun s => { t with session := s }
  | .release => (t.session.step limit .release).map fun s => { t with session := s }
  | .outside a b => (t.session.step limit (.outside a b)).map fun s => { t with session := s }
  | .wait elapsed =>
    if t.session.pump.admits limit late (t.now + elapsed) then
      some { t with now := t.now + elapsed }
    else none

/-- The session after moves in order, if all of them can be made. -/
def run (limit : Option Nat) (late : Nat) (t : TimedSession α β) (moves : List (TimedMove α β)) :
    Option (TimedSession α β) :=
  moves.foldlM (step limit late) t

variable {limit : Option Nat} {late : Nat} {t t' : TimedSession α β}

/-- The effect of a move on a session with a clock. -/
inductive Transition (limit : Option Nat) (late : Nat) (t : TimedSession α β) :
    TimedMove α β → TimedSession α β → Prop
  | progressed {dir : Direction} {s : PumpSession α β}
      (h : PumpSession.Progress limit t.now dir t.session s) :
      Transition limit late t (.copy dir) ⟨t.now, s⟩
  | released {s : PumpSession α β} (h : t.session.step limit .release = some s) :
      Transition limit late t .release ⟨t.now, s⟩
  | changed {a : α} {b : β} {s : PumpSession α β} (hpump : s.pump = t.session.pump)
      (hhistory : ∀ d, s.sourceHistory d = t.session.sourceHistory d ∧
        s.sinkHistory d = t.session.sinkHistory d) :
      Transition limit late t (.outside a b) ⟨t.now, s⟩
  | waited {elapsed : Nat} (h : t.session.pump.admits limit late (t.now + elapsed) = true) :
      Transition limit late t (.wait elapsed) ⟨t.now + elapsed, t.session⟩

/-- A move that is made has one of the effects of `Transition`. -/
theorem transition_of_step {m : TimedMove α β} (h : t.step limit late m = some t') :
    t.Transition limit late m t' := by
  cases m with
  | copy dir =>
    obtain ⟨s, hstep, rfl⟩ := Option.map_eq_some_iff.1 h
    exact .progressed (PumpSession.progress_of_step hstep)
  | release =>
    obtain ⟨s, hstep, rfl⟩ := Option.map_eq_some_iff.1 h
    exact .released hstep
  | outside a b =>
    cases h
    exact .changed rfl fun d => by cases d <;> exact ⟨rfl, rfl⟩
  | wait elapsed =>
    simp only [step] at h
    split_ifs at h with hadmits
    cases h
    exact .waited hadmits

/-- Without its clock, a run is a run of the session. -/
theorem exists_run_session {moves : List (TimedMove α β)}
    (hrun : t.run limit late moves = some t') :
    ∃ untimed, t.session.run limit untimed = some t'.session := by
  induction moves generalizing t with
  | nil =>
    cases hrun
    exact ⟨[], rfl⟩
  | cons m moves ih =>
    obtain ⟨next, hnext, hrest⟩ := foldlM_cons_eq_some_iff.1 hrun
    obtain ⟨untimed, huntimed⟩ := ih hrest
    cases m with
    | copy dir =>
      obtain ⟨s, hstep, rfl⟩ := Option.map_eq_some_iff.1 hnext
      exact ⟨.copy dir t.now :: untimed, foldlM_cons_eq_some_iff.2 ⟨s, hstep, huntimed⟩⟩
    | release =>
      obtain ⟨s, hstep, rfl⟩ := Option.map_eq_some_iff.1 hnext
      exact ⟨.release :: untimed, foldlM_cons_eq_some_iff.2 ⟨s, hstep, huntimed⟩⟩
    | outside a b =>
      cases hnext
      exact ⟨.outside a b :: untimed, foldlM_cons_eq_some_iff.2 ⟨_, rfl, huntimed⟩⟩
    | wait elapsed =>
      simp only [step] at hnext
      split_ifs at hnext
      cases hnext
      exact ⟨untimed, huntimed⟩

/-! ### Pending reads -/

/-- Every move leaves the timers in charge: a read starts at the time of its announcement, and the
clock waits for the timers of the reads that are pending. -/
theorem IsLookedAfter.of_transition {m : TimedMove α β} (h : t.Transition limit late m t')
    (ht : t.IsLookedAfter limit late) : t'.IsLookedAfter limit late := by
  cases h with
  | @progressed dir s h =>
    obtain ⟨given, taken, htrace, -⟩ := h.exists_trace
    rintro d since ⟨hrunning, hphase⟩
    rcases dir.eq_or_eq_opposite d with rfl | rfl
    · obtain rfl := htrace.since_eq hphase
      exact ⟨Nat.le_refl _, fun most _ =>
        Nat.le_trans (Nat.le_add_right _ _) (Nat.le_add_right _ _)⟩
    · rw [h.other] at hphase
      exact ht _ since ⟨h.running, hphase⟩
  | released h =>
    rintro d since ⟨hrunning, -⟩
    obtain ⟨⟨o, ho⟩, hverdict, -⟩ := PumpSession.parting_of_release h
    cases (hverdict.trans ho).symm.trans hrunning
  | changed hpump =>
    rintro d since ⟨hrunning, hphase⟩
    rw [hpump] at hrunning hphase
    exact ht d since ⟨hrunning, hphase⟩
  | waited hadmits =>
    rintro d since ⟨hrunning, hphase⟩
    refine ⟨Nat.le_add_right_of_le (ht d since ⟨hrunning, hphase⟩).1, ?_⟩
    rintro most rfl
    exact Pump.le_of_admits hadmits hrunning hphase

theorem IsLookedAfter.of_run {moves : List (TimedMove α β)}
    (hrun : t.run limit late moves = some t') (ht : t.IsLookedAfter limit late) :
    t'.IsLookedAfter limit late :=
  foldlM_induction (fun h ht => ht.of_transition (transition_of_step h)) hrun ht

/-- What can have become of a read that was pending when its source had answered `answered`
reads. -/
inductive ReadFate (dir : Direction) (since answered : Nat) (t : TimedSession α β) : Prop
  | pending (hawaits : t.Awaits dir since)
      (hanswers : (answers (t.session.sourceHistory dir)).length = answered)
  | answered (hanswers : answered < (answers (t.session.sourceHistory dir)).length)
  | ended (o : PumpOutcome) (hverdict : t.session.pump.verdict? = some o)
      (hfailure : o.finished = dir → o.failure = some .idleTimeout)

/-- A read that is pending stays pending until its source answers it or the copying ends. If the
copying ends in its direction, that is because the read took too long. -/
theorem ReadFate.of_transition {m : TimedMove α β} (h : t.Transition limit late m t')
    {dir : Direction} {since answered : Nat} (ht : t.ReadFate dir since answered) :
    t'.ReadFate dir since answered := by
  cases h with
  | @progressed active s h =>
    obtain ⟨given, taken, htrace, hsource, hsink⟩ := h.exists_trace
    cases ht with
    | ended o hverdict =>
      rw [h.running] at hverdict
      cases hverdict
    | answered hanswers =>
      refine .answered (Nat.lt_of_lt_of_le hanswers ?_)
      rcases active.eq_or_eq_opposite dir with rfl | rfl
      · simp [hsource, answers_append]
      · simp [PumpSession.sourceHistory_opposite, hsink, answers_append]
    | pending hawaits hanswers =>
      rcases active.eq_or_eq_opposite dir with rfl | rfl
      · rcases htrace.of_reading hawaits.2 with hfinish | hgiven
        · refine .ended ⟨dir, some .idleTimeout⟩ ?_ fun _ => rfl
          rw [h.verdict?_eq, hfinish]
          rfl
        · refine .answered ?_
          have hpos := List.length_pos_iff.2 hgiven
          simp only [hsource, answers_append, List.length_append]
          omega
      · cases hverdict : s.pump.verdict? with
        | none =>
          refine .pending ⟨hverdict, ?_⟩ ?_
          · rw [h.other]
            exact hawaits.2
          · rw [PumpSession.sourceHistory_opposite] at hanswers ⊢
            simp [hsink, answers_append, htrace.answers_taken, hanswers]
        | some o =>
          refine .ended o hverdict fun hfinished => ?_
          rw [h.verdict?_eq] at hverdict
          obtain ⟨failure, -, rfl⟩ := Option.map_eq_some_iff.1 hverdict
          exact absurd hfinished.symm active.opposite_ne
  | released h =>
    obtain ⟨⟨o, ho⟩, hsame, hparting⟩ := PumpSession.parting_of_release h
    obtain ⟨-, given, -, hsource, hgiven, -⟩ := hparting dir
    cases ht with
    | pending hawaits => cases ho.symm.trans hawaits.1
    | answered hanswers =>
      refine .answered ?_
      rwa [hsource, answers_append, answers_of_parting hgiven, List.append_nil]
    | ended o hverdict hfailure => exact .ended o (hsame.trans hverdict) hfailure
  | changed hpump hhistory =>
    cases ht with
    | pending hawaits hanswers =>
      refine .pending ⟨?_, ?_⟩ ?_
      · exact hpump ▸ hawaits.1
      · exact hpump ▸ hawaits.2
      · exact (hhistory dir).1 ▸ hanswers
    | answered hanswers => exact .answered ((hhistory dir).1 ▸ hanswers)
    | ended o hverdict hfailure => exact .ended o (hpump ▸ hverdict) hfailure
  | waited =>
    cases ht with
    | pending hawaits hanswers => exact .pending hawaits hanswers
    | answered hanswers => exact .answered hanswers
    | ended o hverdict hfailure => exact .ended o hverdict hfailure

theorem ReadFate.of_run {moves : List (TimedMove α β)} (hrun : t.run limit late moves = some t')
    {dir : Direction} {since answered : Nat} (ht : t.ReadFate dir since answered) :
    t'.ReadFate dir since answered :=
  foldlM_induction (fun h ht => ht.of_transition (transition_of_step h)) hrun ht

/-- A read that has been pending for longer than the timers allow, and has not been answered, has
ended the copying, unless the other direction has ended it before. -/
theorem exists_verdict_of_overdue {moves : List (TimedMove α β)} {dir : Direction}
    {since most : Nat} (hawaits : t.Awaits dir since) (ht : t.IsLookedAfter (some most) late)
    (hrun : t.run (some most) late moves = some t') (hlate : since + most + late < t'.now)
    (hanswers : answers (t'.session.sourceHistory dir) = answers (t.session.sourceHistory dir)) :
    ∃ o, t'.session.pump.verdict? = some o ∧
      (o.finished = dir → o.failure = some .idleTimeout) := by
  have hfate : t'.ReadFate dir since (answers (t.session.sourceHistory dir)).length :=
    .of_run hrun (.pending hawaits rfl)
  cases hfate with
  | pending hstill =>
    have hnow := ((ht.of_run hrun) dir since hstill).2 most rfl
    exact absurd hnow (Nat.not_le_of_lt hlate)
  | answered hmore =>
    rw [hanswers] at hmore
    exact absurd hmore (Nat.lt_irrefl _)
  | ended o hverdict hfailure => exact ⟨o, hverdict, hfailure⟩

/-- The timers do not stop the clock for good: if no time may pass, a direction has a step to
take. -/
theorem exists_step_of_refused (h : t.step limit late (.wait 1) = none) :
    ∃ dir, (t.step limit late (.copy dir)).isSome := by
  have hrefused : t.session.pump.admits limit late (t.now + 1) = false := by
    by_contra hadmits
    rw [step, if_pos (eq_true_of_ne_false hadmits)] at h
    cases h
  simp only [Pump.admits, Bool.or_eq_false_iff, Bool.and_eq_false_iff] at hrefused
  obtain ⟨hrunning, hforth | hback⟩ := hrefused
  · refine ⟨.aToB, ?_⟩
    simpa [step, PumpSession.step, Pump.step, hrunning] using
      Copy.isSome_step_of_refuses hforth t.session.a t.session.b
  · refine ⟨.bToA, ?_⟩
    simpa [step, PumpSession.step, Pump.step, hrunning] using
      Copy.isSome_step_of_refuses hback t.session.b t.session.a

/-! ### Overdue reads -/

/-- The read of a direction has been pending for as long as it may, and its source has nothing to
give. -/
structure IsOverdue (limit : Option Nat) (t : TimedSession α β) (dir : Direction) : Prop where
  silent : t.session.IsSilent dir
  exists_since : ∃ since most, t.Awaits dir since ∧ limit = some most ∧ since + most ≤ t.now

/-- A direction whose read is overdue can take its step, and with it the pump is to time out. -/
theorem IsOverdue.exists_step {dir : Direction} (h : t.IsOverdue limit dir) (late : Nat) :
    ∃ t', t.step limit late (.copy dir) = some t' ∧ t'.now = t.now ∧
      t'.session.pump.verdict? = some ⟨dir, some .idleTimeout⟩ := by
  obtain ⟨hsilent, since, most, ⟨hrunning, hphase⟩, rfl, hdue⟩ := h
  have hidle : Copy.isIdle (some most) since t.now = true :=
    Copy.isIdle_iff.2 ⟨most, rfl, by omega⟩
  cases dir with
  | aToB =>
    have hmove : Copy.Move (some most) t.now (t.session.pump.copy .aToB) t.session.a t.session.b _
        _ _ := .timedOut hphase (Prod.ext hsilent rfl) hidle
    have hstep := Copy.step_eq_some_iff.2 hmove
    simp only [step, PumpSession.step, Pump.step, hrunning, Pump.copy] at hstep ⊢
    simp [hstep, Pump.settle, Pump.copy, Pump.verdict?, Copy.finish]
  | bToA =>
    have hmove : Copy.Move (some most) t.now (t.session.pump.copy .bToA) t.session.b t.session.a _
        _ _ := .timedOut hphase (Prod.ext hsilent rfl) hidle
    have hstep := Copy.step_eq_some_iff.2 hmove
    simp only [step, PumpSession.step, Pump.step, hrunning, Pump.copy] at hstep ⊢
    simp [hstep, Pump.settle, Pump.copy, Pump.verdict?, Copy.finish]

/-- If a pump is to time out, the read of a direction was overdue and this direction took its step,
unless one of the peers says that it has timed out itself. -/
theorem exists_overdue {now : Nat} {a : α} {b : β} {moves : List (TimedMove α β)}
    (hrun : (start now a b).run limit late moves = some t) {o : PumpOutcome}
    (ho : t.session.pump.verdict? = some o) {cause : IoError} (hcause : o.failure = some cause)
    (hkind : cause.kind = .timedOut) :
    t.session.Reports cause ∨ cause = .idleTimeout ∧
      ∃ before after u, moves = before ++ .copy o.finished :: after ∧
        (start now a b).run limit late before = some u ∧ u.IsOverdue limit o.finished := by
  obtain ⟨before, m, after, u, u', hmoves, hbefore, hmove, hafter, hu, hu'⟩ :=
    exists_move_of_run (P := fun t => t.session.pump.verdict?.isSome) hrun nofun
      (Option.isSome_of_mem ho)
  obtain ⟨untimed, huntimed⟩ := exists_run_session hafter
  obtain ⟨hverdict, -⟩ := PumpSession.settled_of_run hu' huntimed
  rw [hverdict] at ho
  cases transition_of_step hmove with
  | changed hsame => exact absurd (hsame ▸ hu') hu
  | waited => exact absurd hu' hu
  | released h => exact absurd ((PumpSession.parting_of_release h).2.1 ▸ hu') hu
  | @progressed dir s h =>
    obtain ⟨hfinished, hreports | ⟨hidle, hsilent, since, hphase, hdue⟩⟩ :=
      h.of_timedOut ho hcause hkind
    · exact .inl (hreports.of_run hu' huntimed)
    · obtain ⟨most, hmost, hage⟩ := Copy.isIdle_iff.1 hdue
      have hsince := ((isLookedAfter_start limit late now a b).of_run hbefore _ _
        ⟨h.running, hphase⟩).1
      rw [hfinished]
      exact .inr ⟨hidle, before, after, u, hmoves, hbefore, hsilent, since, most,
        ⟨h.running, hphase⟩, hmost, by omega⟩

end TimedSession

/-! ### From the decision to the return -/

/-- The releases that lie before a pump when its copying has ended. -/
def PumpStage.releasesLeft : PumpStage → Nat
  | .copying | .releasingB _ => 2
  | .releasingA _ => 1
  | .returned _ => 0

theorem PumpStage.releasesLeft_le (stage : PumpStage) : stage.releasesLeft ≤ 2 := by
  cases stage <;> simp [releasesLeft]

/-- A pump without releases before it has returned what was decided. -/
theorem Pump.outcome_of_releasesLeft {p : Pump} {o : PumpOutcome} (ho : p.verdict? = some o)
    (hnone : p.stage.releasesLeft = 0) : p.outcome = some o := by
  unfold verdict? at ho
  unfold outcome
  cases hstage : p.stage <;> simp_all [PumpStage.releasesLeft]

/-- A stream that is not blocked can be shut down, with a failure or without one. -/
theorem ByteStream.isSome_shutDown? {σ : Type} [ByteStream σ] {stream : σ}
    (h : (shutDown stream).1 ≠ .blocked) : (shutDown? stream).isSome := by
  unfold shutDown?
  split
  next hblocked => exact absurd (congrArg Prod.fst hblocked) h
  next => rfl
  next => rfl

namespace PumpSession

variable {α β : Type} [ByteStream α] [ByteStream β] {limit : Option Nat} {s s' : PumpSession α β}

/-- The pump waits for a stream to be shut down, and this cannot go on now. -/
def IsHeldUp (s : PumpSession α β) : Prop :=
  match s.pump.stage with
  | .releasingB _ => (ByteStream.shutDown s.b).1 = .blocked
  | .releasingA _ => (ByteStream.shutDown s.a).1 = .blocked
  | .copying | .returned _ => False

/-- A pump whose copying has ended has returned, is held up, or can take a step. -/
theorem outcome_or_isHeldUp_or_release (limit : Option Nat) {o : PumpOutcome}
    (ho : s.pump.verdict? = some o) :
    s.pump.outcome = some o ∨ s.IsHeldUp ∨ (s.step limit .release).isSome := by
  unfold Pump.verdict? at ho
  unfold Pump.outcome IsHeldUp step Pump.release
  cases hstage : s.pump.stage with
  | copying =>
    rw [hstage] at ho
    cases ho
  | releasingB | releasingA =>
    refine .inr (or_iff_not_imp_left.2 fun hfree => ?_)
    simpa using ByteStream.isSome_shutDown? hfree
  | returned =>
    rw [hstage] at ho
    exact .inl ho

theorem releasesLeft_of_release (h : s.step limit .release = some s') :
    s'.pump.stage.releasesLeft + 1 = s.pump.stage.releasesLeft := by
  obtain ⟨⟨p, a, b⟩, hrelease, rfl⟩ := Option.map_eq_some_iff.1 h
  cases Pump.release_eq_some_iff.1 hrelease with
  | shutB hstage | shutA hstage => rw [hstage]; rfl

end PumpSession

namespace TimedSession

variable {α β : Type} [ByteStream α] [ByteStream β] {limit : Option Nat} {late : Nat}
  {t t' : TimedSession α β}

/-- Each release of a run is one of those that lay before the pump. -/
theorem releasesLeft_of_run {moves : List (TimedMove α β)}
    (hended : t.session.pump.verdict?.isSome) (hrun : t.run limit late moves = some t') :
    t'.session.pump.stage.releasesLeft + moves.countP (·.isRelease) =
      t.session.pump.stage.releasesLeft := by
  induction moves generalizing t with
  | nil =>
    cases hrun
    rfl
  | cons m moves ih =>
    obtain ⟨next, hnext, hrest⟩ := foldlM_cons_eq_some_iff.1 hrun
    rw [List.countP_cons]
    cases transition_of_step hnext with
    | progressed h =>
      rw [h.running] at hended
      cases hended
    | @released s h =>
      have hstill := (PumpSession.parting_of_release h).2.1 ▸ hended
      have hcount : _ = s.pump.stage.releasesLeft := ih hstill hrest
      have hone := PumpSession.releasesLeft_of_release h
      have hrelease : (TimedMove.release : TimedMove α β).isRelease = true := rfl
      rw [if_pos hrelease]
      omega
    | changed hpump =>
      have hcount := ih (hpump ▸ hended) hrest
      rw [hpump] at hcount
      exact hcount
    | waited =>
      have hcount := fun hstill => ih hstill hrest
      exact hcount hended

/-- What is decided is returned after two releases. -/
theorem outcome_of_releases {moves : List (TimedMove α β)} {o : PumpOutcome}
    (ho : t.session.pump.verdict? = some o) (hrun : t.run limit late moves = some t')
    (hreleases : 2 ≤ moves.countP (·.isRelease)) : t'.session.pump.outcome = some o := by
  have hended : t.session.pump.verdict?.isSome := Option.isSome_of_mem ho
  obtain ⟨untimed, huntimed⟩ := exists_run_session hrun
  obtain ⟨hverdict, -⟩ := PumpSession.settled_of_run hended huntimed
  have hcount := releasesLeft_of_run hended hrun
  have hmost := t.session.pump.stage.releasesLeft_le
  exact Pump.outcome_of_releasesLeft (hverdict.trans ho) (by omega)

/-! ### When a pump times out -/

/-- The clock and the end of a pump, in every run, whatever the peers do and whenever.

The timers do not stop the clock for good. A direction whose read is overdue can take its step, and
with it the pump is to time out. A read that is not answered for longer than the timers allow has
this effect, whatever the other direction does, unless the other direction has ended the copying. A
pump is to time out in no other way: if no read is ever overdue, or if reads may take any time, then
it does not time out, unless a peer says that it has timed out itself. However the copying has
ended, each direction has counted the chunks that were completed, which are all but the one that was
at hand.

What is decided stays so, and nothing is read or written any more. The pump is held up while the
stream that it shuts down cannot be, and can go on otherwise; after two releases it has returned
what was decided, and reports what the directions have counted. -/
theorem timeouts_of_run {now : Nat} {a : α} {b : β} {moves : List (TimedMove α β)}
    (hrun : (start now a b).run limit late moves = some t) :
    (t.step limit late (.wait 1) = none → ∃ dir, (t.step limit late (.copy dir)).isSome) ∧
    (∀ dir, t.IsOverdue limit dir → ∃ t', t.step limit late (.copy dir) = some t' ∧
      t'.session.pump.verdict? = some ⟨dir, some .idleTimeout⟩) ∧
    (∀ most dir since, limit = some most → t.Awaits dir since → ∀ more t',
      t.run limit late more = some t' → since + most + late < t'.now →
      answers (t'.session.sourceHistory dir) = answers (t.session.sourceHistory dir) →
      ∃ o, t'.session.pump.verdict? = some o ∧
        (o.finished = dir → o.failure = some .idleTimeout)) ∧
    (∀ o cause, t.session.pump.verdict? = some o → o.failure = some cause →
      cause.kind = .timedOut → ¬ t.session.Reports cause →
      cause = .idleTimeout ∧ limit ≠ none ∧ ∃ before after u,
        moves = before ++ .copy o.finished :: after ∧
        (start now a b).run limit late before = some u ∧ u.IsOverdue limit o.finished) ∧
    (limit = none ∨ (∀ before after u, moves = before ++ after →
        (start now a b).run limit late before = some u →
        ∀ most dir since, limit = some most → u.Awaits dir since → u.now < since + most) →
      ∀ o cause, t.session.pump.verdict? = some o → o.failure = some cause →
        cause.kind = .timedOut → t.session.Reports cause) ∧
    (∀ dir, (t.session.pump.copy dir).count = (t.session.completed dir).flatten.length ∧
      t.session.completed dir <+: chunks (t.session.sourceHistory dir) ∧
      (chunks (t.session.sourceHistory dir)).length ≤ (t.session.completed dir).length + 1) ∧
    ∀ o, t.session.pump.verdict? = some o →
      (t.session.pump.outcome = some o ∨ t.session.IsHeldUp ∨
        (t.step limit late .release).isSome) ∧
      ∀ more t', t.run limit late more = some t' →
        t'.session.pump.verdict? = some o ∧
        (∀ dir, t'.session.pump.copy dir = t.session.pump.copy dir) ∧
        t.session.a.Parts t'.session.a ∧ t.session.b.Parts t'.session.b ∧
        (2 ≤ more.countP (·.isRelease) → t'.session.pump.outcome = some o) ∧
        (t'.session.pump.outcome = some o → ∃ stats, t'.session.pump.stats? = some stats ∧
          stats.finished = o.finished ∧
          ∀ dir, stats.moved dir = (t'.session.pump.copy dir).count) := by
  refine ⟨exists_step_of_refused, fun dir h => ?_, ?_, fun o cause ho hcause hkind hreports => ?_,
    fun hpunctual o cause ho hcause hkind => ?_, ?_, fun o ho => ⟨?_, fun more t' hmore => ?_⟩⟩
  · obtain ⟨t', hstep, -, hverdict⟩ := h.exists_step late
    exact ⟨t', hstep, hverdict⟩
  · rintro most dir since rfl hawaits more t' hmore hlate hanswers
    exact exists_verdict_of_overdue hawaits ((isLookedAfter_start _ late now a b).of_run hrun) hmore
      hlate hanswers
  · obtain hsays | ⟨hidle, before, after, u, hmoves, hbefore, hdue⟩ :=
      exists_overdue hrun ho hcause hkind
    · exact absurd hsays hreports
    · obtain ⟨since, most, -, hmost, -⟩ := hdue.exists_since
      exact ⟨hidle, by simp [hmost], before, after, u, hmoves, hbefore, hdue⟩
  · obtain hsays | ⟨-, before, after, u, hmoves, hbefore, hdue⟩ :=
      exists_overdue hrun ho hcause hkind
    · exact hsays
    · obtain ⟨since, most, hawaits, hmost, hage⟩ := hdue.exists_since
      rcases hpunctual with hnone | hpunctual
      · rw [hnone] at hmost
        cases hmost
      · have hyoung := hpunctual before _ u hmoves hbefore most _ since hmost hawaits
        exact absurd hage (Nat.not_le_of_lt hyoung)
  · obtain ⟨untimed, huntimed⟩ := exists_run_session hrun
    exact (PumpSession.completes_of_run huntimed).copy
  · simpa [step] using PumpSession.outcome_or_isHeldUp_or_release limit ho
  · obtain ⟨untimed, huntimed⟩ := exists_run_session hmore
    obtain ⟨hverdict, hcopy, ha, hb⟩ :=
      PumpSession.settled_of_run (Option.isSome_of_mem ho) huntimed
    exact ⟨hverdict.trans ho, hcopy, ha, hb, outcome_of_releases ho hmore,
      PumpSession.exists_stats⟩

/-- One direction is busy while the other one waits: the pump times out, and reports the two chunks
that the busy direction has completed. -/
theorem timeouts_of_run_busy :
    ∃ t : TimedSession Peer Peer, ∃ stats,
      (start 0 (Peer.fresh.feed [7, 8]) Peer.fresh).run (some 5) 0
        [.copy .aToB, .copy .aToB, .copy .aToB, .wait 4,
          .outside (Peer.fresh.feed [9]) Peer.fresh, .copy .aToB, .copy .aToB, .copy .aToB,
          .wait 1, .copy .bToA, .release, .release] = some t ∧
        t.session.pump.outcome = some ⟨.bToA, some .idleTimeout⟩ ∧
        t.session.pump.stats? = some stats ∧ stats.moved .aToB = 3 := by
  have hlast : ((start 0 (Peer.fresh.feed [7, 8]) Peer.fresh).run (some 5) 0
      [.copy .aToB, .copy .aToB, .copy .aToB, .wait 4,
        .outside (Peer.fresh.feed [9]) Peer.fresh, .copy .aToB, .copy .aToB, .copy .aToB,
        .wait 1, .copy .bToA, .release, .release]).map
      (fun t => (t.session.pump.outcome, t.session.completed .aToB)) =
      some (some ⟨.bToA, some .idleTimeout⟩, [[7, 8], [9]]) := by decide
  obtain ⟨t, hrun, heq⟩ := Option.map_eq_some_iff.1 hlast
  obtain ⟨houtcome, hcompleted⟩ := Prod.mk.inj heq
  obtain ⟨-, -, -, -, -, hcounted, hend⟩ := timeouts_of_run hrun
  have hnow : t.run (some 5) 0 [] = some t := rfl
  obtain ⟨-, -, -, -, -, hstats⟩ :=
    (hend _ (Pump.verdict?_of_outcome houtcome)).2 [] t hnow
  obtain ⟨stats, hstats, -, hmoved⟩ := hstats houtcome
  exact ⟨t, stats, hrun, houtcome, hstats, by
    rw [hmoved, (hcounted .aToB).1, hcompleted]
    rfl⟩

/-- A pump between two silent peers, the first of which cannot be shut down. The pump is to time out
when the reads have been pending for as long as they may. It has not returned at any later time, and
nothing is left for it to do. -/
theorem held_up_after_timeout :
    ∃ t : TimedSession Peer Peer,
      (start 0 (Peer.fresh.setShutDown .blocked) Peer.fresh).run (some 5) 0
        [.wait 5, .copy .aToB, .release] = some t ∧
      t.session.pump.verdict? = some ⟨.aToB, some .idleTimeout⟩ ∧
      ∀ elapsed, ∃ t', t.step (some 5) 0 (.wait elapsed) = some t' ∧ t'.now = 5 + elapsed ∧
        t'.session.pump.outcome = none ∧ t'.step (some 5) 0 .release = none ∧
        ∀ dir, t'.step (some 5) 0 (.copy dir) = none := by
  have hlast : ((start 0 (Peer.fresh.setShutDown .blocked) Peer.fresh).run (some 5) 0
      [.wait 5, .copy .aToB, .release]).isSome = true := by decide
  obtain ⟨t, hrun⟩ := Option.isSome_iff_exists.1 hlast
  refine ⟨t, hrun, ?_⟩
  cases hrun
  exact ⟨rfl, fun elapsed => ⟨_, rfl, rfl, rfl, rfl, fun dir => by cases dir <;> rfl⟩⟩

end TimedSession

end Gatehouse
