import Gatehouse.Proofs.Pump.Flow
import Gatehouse.Proofs.Run
import Gatehouse.Stream.Scripted

/-!
# Pumps between peers of any kind

A pump and its two peers take turns in any order: one direction of the pump takes a step, at any
time, the pump goes on to shut its streams down, or the peers change by themselves, in any way. The
peers are recorded streams, so whatever they are and however they change, their histories tell what
the pump has done with them.

At each moment each peer has taken, in order, the first of the bytes that the other one has given.
When one direction ends, nothing is read or written any more, and if it is the end of one stream,
everything from that stream has been passed on. When a pump returns, in whatever way, both streams
are shut down, and nothing is done with them any more.

## Main definitions

* `Pump.Transition`, `Pump.Release`: the steps of a pump.
* `Copy.Relays`: a copy has passed on the first of the bytes that its source has given.
* `PumpSession`, `PumpMove`, `PumpSession.run`: a pump with its peers, and what may happen.
* `PumpSession.Faithful`: both copies relay, and the end of the pump is the end of everything.

## Main results

* `PumpSession.faithful_of_run`: every run of a session is faithful.
* `PumpSession.settled_of_run`: after the end of a direction its peers are only parted from.
* `PumpSession.frozen_of_run`: after a pump has returned nothing is done with its streams.
* `PumpSession.relays_of_run`: what a pump does with the bytes of its peers, in every run.
-/

namespace Gatehouse

/-! ### The steps of a pump -/

namespace Pump

theorem verdict?_eq_none_iff {p : Pump} : p.verdict? = none ↔ p.stage = .copying := by
  unfold verdict?
  cases p.stage <;> simp

theorem verdict?_of_stage {p : Pump} (h : p.stage = .copying) : p.verdict? = none :=
  verdict?_eq_none_iff.2 h

theorem outcome_eq_some_iff {p : Pump} {o : PumpOutcome} :
    p.outcome = some o ↔ p.stage = .returned o := by
  unfold outcome
  cases p.stage <;> simp

/-- A pump returns what has been decided. -/
theorem verdict?_of_outcome {p : Pump} {o : PumpOutcome} (h : p.outcome = some o) :
    p.verdict? = some o := by
  rw [verdict?, outcome_eq_some_iff.1 h]

variable {α β : Type} [ByteStream α] [ByteStream β]

/-- A step of a pump that is copying is a move of one of its copies. If the copy ends with it, the
pump copies no longer. -/
inductive Transition (limit : Option Nat) (now : Nat) (p : Pump) (a : α) (b : β) :
    Direction → Pump → α → β → Prop
  | forth {c : Copy} {a' : α} {b' : β} (hrunning : p.stage = .copying)
      (hmove : Copy.Move limit now p.aToB a b c a' b')
      (hphase : ∀ failure, c.phase ≠ .ended failure) :
      Transition limit now p a b .aToB { p with aToB := c } a' b'
  | forthEnded {c : Copy} {a' : α} {b' : β} {failure : Option IoError}
      (hrunning : p.stage = .copying) (hmove : Copy.Move limit now p.aToB a b c a' b')
      (hphase : c.phase = .ended failure) :
      Transition limit now p a b .aToB ⟨c, p.bToA, .releasingB ⟨.aToB, failure⟩⟩ a' b'
  | back {c : Copy} {a' : α} {b' : β} (hrunning : p.stage = .copying)
      (hmove : Copy.Move limit now p.bToA b a c b' a')
      (hphase : ∀ failure, c.phase ≠ .ended failure) :
      Transition limit now p a b .bToA { p with bToA := c } a' b'
  | backEnded {c : Copy} {a' : α} {b' : β} {failure : Option IoError}
      (hrunning : p.stage = .copying) (hmove : Copy.Move limit now p.bToA b a c b' a')
      (hphase : c.phase = .ended failure) :
      Transition limit now p a b .bToA ⟨p.aToB, c, .releasingB ⟨.bToA, failure⟩⟩ a' b'

/-- A step of a pump that releases its streams shuts one of them down. After the second one it gives
both up. -/
inductive Release (p : Pump) (a : α) (b : β) : Pump → α → β → Prop
  | shutB {o : PumpOutcome} {b' : β} (hstage : p.stage = .releasingB o)
      (hshut : ByteStream.shutDown? b = some b') :
      Release p a b { p with stage := .releasingA o } a b'
  | shutA {o : PumpOutcome} {a' : α} (hstage : p.stage = .releasingA o)
      (hshut : ByteStream.shutDown? a = some a') :
      Release p a b { p with stage := .returned o } (ByteStream.close a') (ByteStream.close b)

variable {limit : Option Nat} {now : Nat} {p p' : Pump} {a a' : α} {b b' : β} {dir : Direction}

/-- A step of a pump is one of its transitions. -/
theorem transition_of_step (h : p.step limit now dir a b = some (p', a', b')) :
    Transition limit now p a b dir p' a' b' := by
  unfold step at h
  split_ifs at h with hended
  have hrunning : p.stage = .copying := verdict?_eq_none_iff.1 (by simpa using hended)
  cases dir with
  | aToB =>
    obtain ⟨⟨c, a₁, b₁⟩, hstep, hsettle⟩ := Option.map_eq_some_iff.1 h
    have hmove := Copy.step_eq_some_iff.1 hstep
    simp only [settle, copy] at hsettle
    split at hsettle
    next hphase =>
      cases hsettle
      exact .forthEnded hrunning hmove hphase
    next hphase =>
      cases hsettle
      exact .forth hrunning hmove hphase
  | bToA =>
    obtain ⟨⟨c, b₁, a₁⟩, hstep, hsettle⟩ := Option.map_eq_some_iff.1 h
    have hmove := Copy.step_eq_some_iff.1 hstep
    simp only [settle, copy] at hsettle
    split at hsettle
    next hphase =>
      cases hsettle
      exact .backEnded hrunning hmove hphase
    next hphase =>
      cases hsettle
      exact .back hrunning hmove hphase

theorem release_eq_some_iff :
    p.release a b = some (p', a', b') ↔ Release p a b p' a' b' := by
  constructor
  · intro h
    unfold release at h
    split at h
    next => cases h
    next => cases h
    next hstage =>
      obtain ⟨_, hshut, hnext⟩ := Option.map_eq_some_iff.1 h
      cases hnext
      exact .shutB hstage hshut
    next hstage =>
      obtain ⟨_, hshut, hnext⟩ := Option.map_eq_some_iff.1 h
      cases hnext
      exact .shutA hstage hshut
  · intro h
    cases h with
    | shutB hstage hshut | shutA hstage hshut =>
      simp only [release, hstage, hshut]
      rfl

namespace Release

theorem copy_eq (h : Release p a b p' a' b') (dir : Direction) : p'.copy dir = p.copy dir := by
  cases h <;> rfl

/-- Releasing the streams does not change what is returned. -/
theorem verdict?_eq (h : Release p a b p' a' b') : p'.verdict? = p.verdict? := by
  cases h with
  | shutB hstage | shutA hstage => simp [verdict?, hstage]

theorem exists_verdict (h : Release p a b p' a' b') : ∃ o, p.verdict? = some o := by
  cases h with
  | @shutB o _ hstage | @shutA o _ hstage => exact ⟨o, by simp [verdict?, hstage]⟩

/-- Streams that are released are only parted from. -/
theorem parts {a a' : Recorded α} {b b' : Recorded β} (h : Release p a b p' a' b') :
    a.Parts a' ∧ b.Parts b' := by
  cases h with
  | shutB _ hshut => exact ⟨.refl a, Recorded.parts_of_shutDown? hshut⟩
  | shutA _ hshut =>
    exact ⟨(Recorded.parts_of_shutDown? hshut).trans (Recorded.parts_close _),
      Recorded.parts_close b⟩

end Release

end Pump

/-! ### A copy between recorded streams -/

namespace Copy

/-- A copy relays one recorded stream to another if it can come about and carries the bytes that
the one has given to the other. -/
structure Relays {α β : Type} (c : Copy) (source : Recorded α) (sink : Recorded β) : Prop where
  isSound : c.IsSound
  carried : c.Carried (produced source.history) (accepted sink.history)

theorem relays_start {α β : Type} (now : Nat) (a : α) (b : β) :
    (start now).Relays (.fresh a) (.fresh b) :=
  ⟨isSound_start now, carried_start now⟩

/-- A copy goes on relaying when its streams are parted from. -/
theorem Relays.of_parts {α β : Type} {c : Copy} {source source' : Recorded α}
    {sink sink' : Recorded β} (hc : c.Relays source sink) (hsource : source.Parts source')
    (hsink : sink.Parts sink') : c.Relays source' sink' := by
  refine ⟨hc.isSound, ?_⟩
  rw [hsource.produced_eq, hsink.accepted_eq]
  exact hc.carried

variable {α β : Type} [ByteStream α] [ByteStream β] {limit : Option Nat} {now : Nat} {c c' d : Copy}
  {source source' : Recorded α} {sink sink' : Recorded β}

/-- Its own moves keep a copy relaying. -/
theorem Relays.of_move (h : Move limit now c source sink c' source' sink')
    (hc : c.Relays source sink) : c'.Relays source' sink' := by
  obtain ⟨input, output, hgives, htakes, hcarried⟩ := hc.carried.of_move h hc.isSound
  refine ⟨h.isSound hc.isSound, ?_⟩
  rwa [hgives.produced_eq, htakes.accepted_eq]

/-- The moves of the copy the other way keep a copy relaying. -/
theorem Relays.of_opposite (h : Move limit now c source sink c' source' sink')
    (hc : c.IsSound) (hd : d.Relays sink source) : d.Relays sink' source' := by
  obtain ⟨input, output, hgives, htakes, -⟩ := h.flow hc
  refine ⟨hd.isSound, ?_⟩
  rw [htakes.produced_eq, hgives.accepted_eq]
  exact hd.carried

/-- The source of a copy that ends without a failure has given the end of the stream last. -/
theorem Move.history_of_ended (h : Move limit now c source sink c' source' sink')
    (hended : c'.phase = .ended none) : [.gave []] <:+ source'.history :=
  ⟨source.history, (Recorded.read_bytes (h.read_of_ended hended)).symm⟩

end Copy

/-! ### Sessions -/

/-- A pump with its peers. -/
structure PumpSession (α β : Type) where
  pump : Pump
  a : Recorded α
  b : Recorded β

/-- What may happen in a session. -/
inductive PumpMove (α β : Type) where
  /-- One direction of the pump takes a step at the given time. -/
  | copy (dir : Direction) (now : Nat)
  /-- The pump takes a step of shutting its streams down. -/
  | release
  /-- The peers change by themselves. -/
  | outside (a : α) (b : β)

namespace PumpSession

/-- A session that begins at the given time. -/
def start {α β : Type} (now : Nat) (a : α) (b : β) : PumpSession α β :=
  ⟨.start now, .fresh a, .fresh b⟩

/-- What has been done to the stream that a direction reads. -/
def sourceHistory {α β : Type} (s : PumpSession α β) : Direction → List StreamEvent
  | .aToB => s.a.history
  | .bToA => s.b.history

/-- What has been done to release the stream that a direction reads. -/
def farewell {α β : Type} (s : PumpSession α β) : Direction → List StreamEvent
  | .aToB =>
    match s.pump.stage with
    | .returned _ => [.shutDown, .closed]
    | _ => []
  | .bToA =>
    match s.pump.stage with
    | .releasingA _ => [.shutDown]
    | .returned _ => [.shutDown, .closed]
    | _ => []

theorem farewell_of_outcome {α β : Type} {s : PumpSession α β} (h : s.pump.outcome.isSome)
    (dir : Direction) : s.farewell dir = [.shutDown, .closed] := by
  obtain ⟨o, ho⟩ := Option.isSome_iff_exists.1 h
  have hstage := Pump.outcome_eq_some_iff.1 ho
  cases dir <;> simp [farewell, hstage]

/-- A session is faithful if both copies relay one peer to the other and what the pump is to return
is the end of one of its copies, after which both streams are released. -/
structure Faithful {α β : Type} (s : PumpSession α β) : Prop where
  forth : s.pump.aToB.Relays s.a s.b
  back : s.pump.bToA.Relays s.b s.a
  phase_eq : ∀ o, s.pump.verdict? = some o → (s.pump.copy o.finished).phase = .ended o.failure
  released : ∀ dir, s.farewell dir <:+ s.sourceHistory dir
  gave_end : ∀ dir, s.pump.verdict? = some ⟨dir, none⟩ →
    .gave [] :: s.farewell dir <:+ s.sourceHistory dir

theorem faithful_start {α β : Type} (now : Nat) (a : α) (b : β) : (start now a b).Faithful where
  forth := Copy.relays_start now a b
  back := Copy.relays_start now b a
  phase_eq := nofun
  released dir := by cases dir <;> exact List.nil_suffix
  gave_end := nofun

variable {α β : Type} [ByteStream α] [ByteStream β]

/-- The session after a move, if it can be made. -/
def step (limit : Option Nat) (s : PumpSession α β) : PumpMove α β → Option (PumpSession α β)
  | .copy dir now => (s.pump.step limit now dir s.a s.b).map fun (p, a, b) => ⟨p, a, b⟩
  | .release => (s.pump.release s.a s.b).map fun (p, a, b) => ⟨p, a, b⟩
  | .outside a b => some { s with a := { s.a with stream := a }, b := { s.b with stream := b } }

/-- The session after moves in order, if all of them can be made. -/
def run (limit : Option Nat) (s : PumpSession α β) (moves : List (PumpMove α β)) :
    Option (PumpSession α β) :=
  moves.foldlM (step limit) s

variable {limit : Option Nat} {s s' : PumpSession α β}

/-! ### Sessions are faithful -/

/-- As long as a pump is copying, no stream is released. -/
theorem released_of_copying {α β : Type} {s : PumpSession α β} (h : s.pump.stage = .copying)
    (dir : Direction) : s.farewell dir <:+ s.sourceHistory dir := by
  have hnone : s.farewell dir = [] := by
    cases dir <;> simp [farewell, h]
  rw [hnone]
  exact List.nil_suffix

/-- A transition of the pump keeps a session faithful. -/
theorem Faithful.of_transition {now : Nat} {dir : Direction} {p : Pump} {a : Recorded α}
    {b : Recorded β} (h : Pump.Transition limit now s.pump s.a s.b dir p a b) (hs : s.Faithful) :
    Faithful ⟨p, a, b⟩ := by
  cases h with
  | forth hrunning hmove hphase =>
    refine ⟨hs.forth.of_move hmove, hs.back.of_opposite hmove hs.forth.isSound,
      by simp [Pump.verdict?, hrunning], released_of_copying hrunning,
      by simp [Pump.verdict?, hrunning]⟩
  | forthEnded hrunning hmove hphase =>
    refine ⟨hs.forth.of_move hmove, hs.back.of_opposite hmove hs.forth.isSound, ?_, ?_, ?_⟩
    · rintro _ ⟨⟩
      exact hphase
    · intro dir
      cases dir <;> exact List.nil_suffix
    · rintro _ ⟨⟩
      exact hmove.history_of_ended hphase
  | back hrunning hmove hphase =>
    refine ⟨hs.forth.of_opposite hmove hs.back.isSound, hs.back.of_move hmove,
      by simp [Pump.verdict?, hrunning], released_of_copying hrunning,
      by simp [Pump.verdict?, hrunning]⟩
  | backEnded hrunning hmove hphase =>
    refine ⟨hs.forth.of_opposite hmove hs.back.isSound, hs.back.of_move hmove, ?_, ?_, ?_⟩
    · rintro _ ⟨⟩
      exact hphase
    · intro dir
      cases dir <;> exact List.nil_suffix
    · rintro _ ⟨⟩
      exact hmove.history_of_ended hphase

/-- What a release adds to the histories is what it adds to the farewells. -/
theorem exists_farewell_of_release {p : Pump} {a : Recorded α} {b : Recorded β}
    (h : Pump.Release s.pump s.a s.b p a b) (dir : Direction) :
    ∃ events, farewell ⟨p, a, b⟩ dir = s.farewell dir ++ events ∧
      sourceHistory ⟨p, a, b⟩ dir = s.sourceHistory dir ++ events := by
  cases h with
  | shutB hstage hshut =>
    cases dir with
    | aToB => exact ⟨[], by simp [farewell, hstage], (List.append_nil _).symm⟩
    | bToA =>
      exact ⟨[.shutDown], by simp [farewell, hstage], Recorded.history_of_shutDown? hshut⟩
  | shutA hstage hshut =>
    cases dir with
    | aToB =>
      refine ⟨[.shutDown, .closed], by simp [farewell, hstage], ?_⟩
      simp [sourceHistory, Recorded.history_close, Recorded.history_of_shutDown? hshut]
    | bToA => exact ⟨[.closed], by simp [farewell, hstage], Recorded.history_close _⟩

/-- A release keeps a session faithful. -/
theorem Faithful.of_release {p : Pump} {a : Recorded α} {b : Recorded β}
    (h : Pump.Release s.pump s.a s.b p a b) (hs : s.Faithful) : Faithful ⟨p, a, b⟩ := by
  obtain ⟨ha, hb⟩ := h.parts
  refine ⟨?_, ?_, fun o ho => ?_, fun dir => ?_, fun dir hdir => ?_⟩
  · have hcopy : p.aToB = s.pump.aToB := h.copy_eq .aToB
    exact hcopy ▸ hs.forth.of_parts ha hb
  · have hcopy : p.bToA = s.pump.bToA := h.copy_eq .bToA
    exact hcopy ▸ hs.back.of_parts hb ha
  · exact (congrArg Copy.phase (h.copy_eq _)).trans (hs.phase_eq o (h.verdict?_eq ▸ ho))
  · obtain ⟨events, hfarewell, hhistory⟩ := exists_farewell_of_release h dir
    rw [hfarewell, hhistory]
    exact (List.suffix_append_self_iff).2 (hs.released dir)
  · obtain ⟨events, hfarewell, hhistory⟩ := exists_farewell_of_release h dir
    rw [hfarewell, hhistory, ← List.cons_append]
    exact (List.suffix_append_self_iff).2 (hs.gave_end dir (h.verdict?_eq ▸ hdir))

/-- A move keeps a session faithful. -/
theorem Faithful.of_step {m : PumpMove α β} (h : step limit s m = some s') (hs : s.Faithful) :
    s'.Faithful := by
  cases m with
  | copy dir now =>
    obtain ⟨⟨p, a, b⟩, hstep, rfl⟩ := Option.map_eq_some_iff.1 h
    exact hs.of_transition (Pump.transition_of_step hstep)
  | release =>
    obtain ⟨⟨p, a, b⟩, hrelease, rfl⟩ := Option.map_eq_some_iff.1 h
    exact hs.of_release (Pump.release_eq_some_iff.1 hrelease)
  | outside a b =>
    cases h
    exact ⟨⟨hs.forth.isSound, hs.forth.carried⟩, ⟨hs.back.isSound, hs.back.carried⟩, hs.phase_eq,
      fun dir => by cases dir; exacts [hs.released .aToB, hs.released .bToA],
      fun dir hdir => by cases dir; exacts [hs.gave_end _ hdir, hs.gave_end _ hdir]⟩

theorem faithful_of_run {now : Nat} {a : α} {b : β} {moves : List (PumpMove α β)}
    (hrun : (start now a b).run limit moves = some s) : s.Faithful :=
  foldlM_induction (fun h hs => Faithful.of_step h hs) hrun (faithful_start now a b)

/-! ### After the end -/

/-- When a direction has ended, both copies and what is to be returned stay as they are, and the
peers are only parted from. -/
theorem settled_of_run {moves : List (PumpMove α β)} (hended : s.pump.verdict?.isSome)
    (hrun : s.run limit moves = some s') :
    s'.pump.verdict? = s.pump.verdict? ∧ (∀ dir, s'.pump.copy dir = s.pump.copy dir) ∧
      s.a.Parts s'.a ∧ s.b.Parts s'.b := by
  refine foldlM_induction (P := fun t => t.pump.verdict? = s.pump.verdict? ∧
    (∀ dir, t.pump.copy dir = s.pump.copy dir) ∧ s.a.Parts t.a ∧ s.b.Parts t.b) ?_ hrun
    ⟨rfl, fun _ => rfl, .refl _, .refl _⟩
  rintro t m t' hstep ⟨hverdict, hcopy, ha, hb⟩
  cases m with
  | copy dir now => simp [step, Pump.step, hverdict, hended] at hstep
  | release =>
    obtain ⟨⟨p, a, b⟩, hrelease, rfl⟩ := Option.map_eq_some_iff.1 hstep
    have h := Pump.release_eq_some_iff.1 hrelease
    exact ⟨h.verdict?_eq.trans hverdict, fun dir => (h.copy_eq dir).trans (hcopy dir),
      ha.trans h.parts.1, hb.trans h.parts.2⟩
  | outside a b =>
    cases hstep
    exact ⟨hverdict, hcopy, ha, hb⟩

/-- When a pump has returned, nothing is done with its streams any more. -/
theorem frozen_of_run {moves : List (PumpMove α β)} (hended : s.pump.outcome.isSome)
    (hrun : s.run limit moves = some s') :
    s'.pump = s.pump ∧ s'.a.history = s.a.history ∧ s'.b.history = s.b.history := by
  obtain ⟨o, ho⟩ := Option.isSome_iff_exists.1 hended
  have hverdict := Pump.verdict?_of_outcome ho
  have hstage := Pump.outcome_eq_some_iff.1 ho
  refine foldlM_induction (P := fun t => t.pump = s.pump ∧ t.a.history = s.a.history ∧
    t.b.history = s.b.history) ?_ hrun ⟨rfl, rfl, rfl⟩
  rintro t m t' hstep ⟨hpump, ha, hb⟩
  cases m with
  | copy dir now => simp [step, Pump.step, hpump, hverdict] at hstep
  | release => simp [step, Pump.release, hpump, hstage] at hstep
  | outside a b =>
    cases hstep
    exact ⟨hpump, ha, hb⟩

/-! ### What a pump does with the bytes -/

/-- In every run of a pump, each peer has taken the first of the bytes that the other one has
given. When a direction ends, no bytes are read or written in any later run, and if it is the end
of one stream, everything from that stream has been taken. In whatever way a pump returns, both
streams are then shut down, the end of a stream was given before, and nothing is done with the
streams in any later run. -/
theorem relays_of_run {now : Nat} {a : α} {b : β} {moves : List (PumpMove α β)}
    (hrun : (start now a b).run limit moves = some s) :
    accepted s.b.history <+: produced s.a.history ∧
      accepted s.a.history <+: produced s.b.history ∧
      (∀ o, s.pump.verdict? = some o →
        (o = ⟨.aToB, none⟩ → accepted s.b.history = produced s.a.history) ∧
        (o = ⟨.bToA, none⟩ → accepted s.a.history = produced s.b.history) ∧
        ∀ more s', s.run limit more = some s' →
          s'.pump.verdict? = some o ∧ s.a.Parts s'.a ∧ s.b.Parts s'.b) ∧
      ∀ o, s.pump.outcome = some o →
        (o = ⟨.aToB, none⟩ → accepted s.b.history = produced s.a.history ∧
          [.gave [], .shutDown, .closed] <:+ s.a.history) ∧
        (o = ⟨.bToA, none⟩ → accepted s.a.history = produced s.b.history ∧
          [.gave [], .shutDown, .closed] <:+ s.b.history) ∧
        [.shutDown, .closed] <:+ s.a.history ∧ [.shutDown, .closed] <:+ s.b.history ∧
        ∀ more s', s.run limit more = some s' →
          s'.pump = s.pump ∧ s'.a.history = s.a.history ∧ s'.b.history = s.b.history := by
  have hs := faithful_of_run hrun
  have hforth (h : s.pump.verdict? = some ⟨.aToB, none⟩) :
      accepted s.b.history = produced s.a.history :=
    (hs.forth.carried.of_ended (hs.phase_eq _ h)).1
  have hback (h : s.pump.verdict? = some ⟨.bToA, none⟩) :
      accepted s.a.history = produced s.b.history :=
    (hs.back.carried.of_ended (hs.phase_eq _ h)).1
  refine ⟨hs.forth.carried.isPrefix, hs.back.carried.isPrefix, fun o ho => ?_, fun o ho => ?_⟩
  · refine ⟨fun h => hforth (h ▸ ho), fun h => hback (h ▸ ho), fun more s' hmore => ?_⟩
    obtain ⟨hverdict, -, ha, hb⟩ := settled_of_run (Option.isSome_of_mem ho) hmore
    exact ⟨hverdict.trans ho, ha, hb⟩
  · have hended : s.pump.outcome.isSome := Option.isSome_of_mem ho
    have hverdict := Pump.verdict?_of_outcome ho
    have hfarewell := farewell_of_outcome hended
    refine ⟨?_, ?_, hfarewell .aToB ▸ hs.released .aToB, hfarewell .bToA ▸ hs.released .bToA,
      fun more s' hmore => frozen_of_run hended hmore⟩
    · rintro rfl
      exact ⟨hforth hverdict, hfarewell .aToB ▸ hs.gave_end _ hverdict⟩
    · rintro rfl
      exact ⟨hback hverdict, hfarewell .bToA ▸ hs.gave_end _ hverdict⟩

/-- A peer that takes a chunk in two writes: the pump returns when it has taken all of it. -/
theorem relays_of_run_two_writes :
    ∃ s : PumpSession Peer Peer,
      (start 0 ((Peer.fresh.feed [7, 8, 9]).arrive .ended) (Peer.fresh.widen 2)).run (some 5)
        [.copy .aToB 0, .copy .aToB 1,
          .outside (Peer.fresh.arrive .ended) { Peer.fresh with allowance := some 1 },
          .copy .aToB 2, .copy .aToB 3, .copy .aToB 3, .release, .release] = some s ∧
        s.pump.outcome = some ⟨.aToB, none⟩ ∧ accepted s.b.history = [7, 8, 9] ∧
        produced s.a.history = [7, 8, 9] := by
  have hlast : ((start 0 ((Peer.fresh.feed [7, 8, 9]).arrive .ended) (Peer.fresh.widen 2)).run
      (some 5) [.copy .aToB 0, .copy .aToB 1,
        .outside (Peer.fresh.arrive .ended) { Peer.fresh with allowance := some 1 },
        .copy .aToB 2, .copy .aToB 3, .copy .aToB 3, .release, .release]).map
      (fun s => (s.pump.outcome, accepted s.b.history)) =
      some (some ⟨.aToB, none⟩, [7, 8, 9]) := by decide
  obtain ⟨s, hrun, heq⟩ := Option.map_eq_some_iff.1 hlast
  obtain ⟨houtcome, haccepted⟩ := Prod.mk.inj heq
  obtain ⟨-, -, -, hend⟩ := relays_of_run hrun
  obtain ⟨hforth, -⟩ := hend _ houtcome
  exact ⟨s, hrun, houtcome, haccepted, (hforth rfl).1 ▸ haccepted⟩

end PumpSession

end Gatehouse
