import Gatehouse.Proofs.Pump.Session
import Gatehouse.Proofs.Stream.Pipe
import Gatehouse.Pump.Relay

/-!
# What reaches a tunnel

The bytes of a client pass two pumps and the pipe between them on their way to a tunnel. All that
the first pump has written is in the tunnel, in the pipe, or held by the relay. When the first pump
has come to the end of the client, nothing more is added, and the relay is about to move the rest.

The relay stops with the first of its directions that ends. When the first pump returns, it closes
the pipe in both directions, so the next bytes that the relay reads from the tunnel cannot be
written any more, and the relay ends with them. What it had not yet moved to the tunnel is then
lost.

## Main definitions

* `Recorded.HasTrouble`: a read of a stream has failed or come to the end, or a write was refused.
* `RelayedConnection.undelivered`: the bytes between the first pump and the tunnel.
* `RelayedConnection.RelayEnd`: how the relay ends if the tunnel gives no trouble.
* `RelayMove`, `RelayedConnection.run`: what may happen to a connection.
* `RelayedConnection.HasAnswer`: the relay can read something from the tunnel.

## Main results

* `RelayedConnection.OnTheWay.of_outer`, `RelayedConnection.OnTheWay.of_relay`: no step loses any
  bytes that are on their way.
* `RelayedConnection.exists_run_broken`: an answer of the tunnel can end the relay.
* `RelayedConnection.delivery_of_run`: what has reached the tunnel and what has not.
-/

namespace Gatehouse

/-! ### Trouble with a stream -/

/-- Whether a read has failed or come to the end of the stream, or a write was refused. -/
def StreamEvent.isTrouble : StreamEvent → Bool
  | .readFailed _ | .gave [] | .writeFailed _ | .took [] => true
  | _ => false

/-- A stream has given trouble. -/
def Recorded.HasTrouble {σ : Type} (r : Recorded σ) : Prop := ∃ e ∈ r.history, e.isTrouble = true

instance {σ : Type} (r : Recorded σ) : Decidable r.HasTrouble :=
  inferInstanceAs (Decidable (∃ e ∈ r.history, e.isTrouble = true))

/-- Trouble stays in the history. -/
theorem Recorded.HasTrouble.of_isPrefix {σ : Type} {r r' : Recorded σ} (hr : r.HasTrouble)
    (h : r.history <+: r'.history) : r'.HasTrouble := by
  obtain ⟨e, he, htrouble⟩ := hr
  exact ⟨e, h.subset he, htrouble⟩

theorem Recorded.HasTrouble.of_event {σ : Type} {r r' : Recorded σ} {e : StreamEvent}
    (h : r'.history = r.history ++ [e]) (he : e.isTrouble = true) : r'.HasTrouble :=
  ⟨e, h ▸ List.mem_concat_self, he⟩

/-! ### The copies of a relay -/

namespace Copy

variable {τ : Type} [ByteStream τ] {limit : Option Nat} {now : Nat} {c c' : Copy}
  {far far' : FarEnd} {tunnel tunnel' : Recorded τ}

/-- The copy to the tunnel comes to an end only when the pipe is closed and empty. -/
theorem Move.outward_of_ended (h : Move limit now c far tunnel c' far' tunnel')
    (hended : c'.phase = .ended none) : far'.pipe.outward = ⟨[], true⟩ :=
  Channel.eq_of_read_end (by decide) (FarEnd.read_outward (h.read_of_ended hended))

/-- If the copy to the tunnel fails, the tunnel gives trouble, or it fails to flush when nothing
is left to write. -/
theorem Move.failed_to_tunnel (h : Move none now c far tunnel c' far' tunnel') {cause : IoError}
    (hended : c'.phase = .ended (some cause)) :
    tunnel'.HasTrouble ∨
      c.unwritten = [] ∧ tunnel'.history = tunnel.history ++ [.flushFailed cause] := by
  cases h with
  | timedOut hphase hread hidle => cases hidle
  | readFailed hphase hread => exact absurd hread FarEnd.read_ne_failed
  | writeFailed hphase hwrite =>
    exact .inl (.of_event (Recorded.write_failed hwrite) rfl)
  | wroteNothing hphase hwrite =>
    exact .inl (.of_event (Recorded.write_accepted hwrite) rfl)
  | flushFailed hphase hflush =>
    cases hended
    exact .inr ⟨by simp [unwritten, hphase], Recorded.flush_failed hflush⟩
  | _ => cases hended

/-- If the copy from the tunnel ends, the tunnel gives trouble, or the pipe refuses what the copy
has read. -/
theorem Move.ended_from_tunnel (h : Move none now c tunnel far c' tunnel' far') (hc : c.IsSound)
    {failure : Option IoError} (hended : c'.phase = .ended failure) :
    tunnel'.HasTrouble ∨ failure = some .brokenPipe ∧ c.unwritten ≠ [] ∧ tunnel' = tunnel := by
  cases h with
  | timedOut hphase hread hidle => cases hidle
  | readFailed hphase hread => exact .inl (.of_event (Recorded.read_failed hread) rfl)
  | sourceEnded hphase hread => exact .inl (.of_event (Recorded.read_bytes hread) rfl)
  | @writeFailed rest size cause _ hphase hwrite =>
    cases hended
    rw [(Channel.eq_of_write_failed (FarEnd.write_inward hwrite)).1]
    refine .inr ⟨rfl, ?_, rfl⟩
    simpa [unwritten, hphase] using (hc rest size hphase).1
  | @wroteNothing rest size _ hphase hwrite =>
    have hrest := (hc rest size hphase).1
    exact absurd rfl (Channel.ne_zero_of_write hrest (FarEnd.write_inward hwrite))
  | flushFailed hphase hflush => exact absurd hflush FarEnd.flush_ne_failed
  | _ => cases hended

/-- A move of the copy to the tunnel takes from the pipe what it then holds or has written, unless
the tunnel gives trouble. -/
theorem Move.to_tunnel (h : Move none now c far tunnel c' far' tunnel') (hc : c.IsSound) :
    produced tunnel'.history = produced tunnel.history ∧
      far'.pipe.inward = far.pipe.inward ∧ (tunnel'.HasTrouble ∨
      accepted tunnel'.history ++ (c'.unwritten ++ far'.pipe.outward.buffer) =
        accepted tunnel.history ++ (c.unwritten ++ far.pipe.outward.buffer)) := by
  obtain ⟨input, output, hgives, htakes, hflow⟩ := h.flow hc
  refine ⟨htakes.produced_eq, FarEnd.inward_of_gives hgives, ?_⟩
  rw [FarEnd.buffer_eq_of_gives hgives, htakes.accepted_eq]
  rcases hflow with ⟨⟨cause, hended⟩, rfl, rfl, -⟩ | ⟨-, hbytes, -⟩
  · rcases h.failed_to_tunnel hended with htrouble | ⟨hnothing, -⟩
    · exact .inl htrouble
    · rw [hnothing, unwritten_of_ended hended]
      exact .inr (by simp)
  · have hbuffer : output ++ (c'.unwritten ++ far'.pipe.outward.buffer) =
        c.unwritten ++ (input ++ far'.pipe.outward.buffer) := by
      rw [← List.append_assoc, ← hbytes, List.append_assoc]
    exact .inr (by rw [List.append_assoc, hbuffer])

/-- A move of the copy from the tunnel does not touch what goes to the tunnel. -/
theorem Move.from_tunnel (h : Move limit now c tunnel far c' tunnel' far') (hc : c.IsSound)
    (hcarried : ∃ taken, c.Carried (produced tunnel.history) taken) :
    far'.pipe.outward = far.pipe.outward ∧
      (far.pipe.inward.isClosed = true → far'.pipe.inward = far.pipe.inward) ∧
      accepted tunnel'.history = accepted tunnel.history ∧
      ∃ taken, c'.Carried (produced tunnel'.history) taken := by
  obtain ⟨taken, hcarried⟩ := hcarried
  obtain ⟨input, output, hgives, htakes, hnext⟩ := hcarried.of_move h hc
  rw [hgives.produced_eq]
  exact ⟨FarEnd.outward_of_takes htakes, FarEnd.inward_of_takes htakes, hgives.accepted_eq, _,
    hnext⟩

end Copy

/-! ### The copies of the first pump -/

namespace Copy

variable {α : Type} [ByteStream α] {limit : Option Nat} {now : Nat} {c c' : Copy}
  {client client' : Recorded α} {near near' : NearEnd}

/-- A move of the copy from a client adds what it writes to the end of the pipe, and nothing to a
pipe that is closed. -/
theorem Move.into_pipe (h : Move limit now c client near c' client' near') (hc : c.IsSound)
    {before : Bytes}
    (hcarried : c.Carried (produced client.history) (before ++ near.pipe.outward.buffer)) :
    c'.Carried (produced client'.history) (before ++ near'.pipe.outward.buffer) ∧
      (near.pipe.outward = ⟨[], true⟩ → near'.pipe.outward = ⟨[], true⟩) := by
  obtain ⟨input, output, hgives, htakes, hnext⟩ := hcarried.of_move h hc
  obtain ⟨houtward, hclosed⟩ := NearEnd.outward_of_takes htakes
  rw [houtward, hgives.produced_eq]
  refine ⟨?_, fun hended => ?_⟩
  · rwa [List.append_assoc] at hnext
  · rw [hended] at hclosed ⊢
    rw [hclosed rfl]
    rfl

/-- A move of the copy to a client does not touch what goes to the tunnel. -/
theorem Move.out_of_pipe (h : Move limit now c near client c' near' client') (hc : c.IsSound) :
    produced client'.history = produced client.history ∧
      near'.pipe.outward = near.pipe.outward := by
  obtain ⟨input, output, hgives, htakes, -⟩ := h.flow hc
  exact ⟨htakes.produced_eq, NearEnd.outward_of_gives hgives⟩

end Copy

/-! ### What is on its way -/

/-- Both copies of a pump can come about. -/
structure Pump.IsSound (p : Pump) : Prop where
  aToB : p.aToB.IsSound
  bToA : p.bToA.IsSound

theorem Pump.isSound_start (now : Nat) : (Pump.start now).IsSound :=
  ⟨Copy.isSound_start now, Copy.isSound_start now⟩

theorem Pump.Transition.isSound {α β : Type} [ByteStream α] [ByteStream β] {limit : Option Nat}
    {now : Nat} {dir : Direction} {p p' : Pump} {a a' : α} {b b' : β}
    (h : Transition limit now p a b dir p' a' b') (hp : p.IsSound) : p'.IsSound := by
  cases h with
  | forth _ hmove | forthEnded _ hmove => exact ⟨hmove.isSound hp.aToB, hp.bToA⟩
  | back _ hmove | backEnded _ hmove => exact ⟨hp.aToB, hmove.isSound hp.bToA⟩

theorem Pump.Release.isSound {α β : Type} [ByteStream α] [ByteStream β] {p p' : Pump} {a a' : α}
    {b b' : β} (h : Release p a b p' a' b') (hp : p.IsSound) : p'.IsSound := by
  cases h <;> exact ⟨hp.aToB, hp.bToA⟩

namespace RelayedConnection

/-- The bytes that the first pump has written and the tunnel has not taken: what the relay holds
and what is in the pipe. -/
def undelivered {α τ : Type} (c : RelayedConnection α τ) : Bytes :=
  c.relay.aToB.unwritten ++ c.pipe.outward.buffer

/-- How the copying of the relay ends if the tunnel gives no trouble. -/
inductive RelayEnd {α τ : Type} (c : RelayedConnection α (Recorded τ)) : PumpOutcome → Prop
  /-- It has come to the end of the pipe. -/
  | delivered (hheld : c.relay.aToB.unwritten = []) (houtward : c.pipe.outward = ⟨[], true⟩) :
      RelayEnd c ⟨.aToB, none⟩
  /-- It has read from the tunnel what it could not write any more. -/
  | broken (hanswer : produced c.tunnel.history ≠ []) : RelayEnd c ⟨.bToA, some .brokenPipe⟩
  | unflushed {cause : IoError} (hflush : .flushFailed cause ∈ c.tunnel.history) :
      RelayEnd c ⟨.aToB, some cause⟩

/-- What the relay has ended with stays so, as long as its copy to the tunnel stays as it is,
nothing is taken back from the history of the tunnel, and a pipe that is closed and empty stays so.
-/
theorem RelayEnd.congr {α τ : Type} {c c' : RelayedConnection α (Recorded τ)} {o : PumpOutcome}
    (ho : c.RelayEnd o) (hrelay : c'.relay.aToB = c.relay.aToB)
    (htunnel : c.tunnel.history <+: c'.tunnel.history)
    (houtward : c.pipe.outward = ⟨[], true⟩ → c'.pipe.outward = ⟨[], true⟩) : c'.RelayEnd o := by
  cases ho with
  | delivered hheld hended => exact .delivered (hrelay ▸ hheld) (houtward hended)
  | broken hanswer =>
    obtain ⟨more, hmore⟩ := htunnel
    refine .broken ?_
    rw [← hmore, produced_append]
    exact List.append_ne_nil_of_left_ne_nil hanswer _
  | unflushed hflush => exact .unflushed (htunnel.subset hflush)

/-- The bytes of the client are on their way to the tunnel: the first pump has carried them into
what the tunnel has taken and what is still undelivered. -/
structure OnTheWay {α τ : Type} (c : RelayedConnection (Recorded α) (Recorded τ)) : Prop where
  outer_isSound : c.outer.IsSound
  relay_isSound : c.relay.IsSound
  sent : c.outer.aToB.Carried (produced c.client.history)
    (accepted c.tunnel.history ++ c.undelivered)
  answered : ∃ taken, c.relay.bToA.Carried (produced c.tunnel.history) taken
  outer_ended : c.outer.verdict? = some ⟨.aToB, none⟩ → c.outer.aToB.phase = .ended none
  inward_closed : c.outer.outcome.isSome → c.pipe.inward.isClosed = true
  relay_ended : ∀ o, c.relay.verdict? = some o → c.RelayEnd o

theorem onTheWay_start {α τ : Type} (now : Nat) (client : α) (tunnel : τ) :
    (start now (Recorded.fresh client) (Recorded.fresh tunnel)).OnTheWay where
  outer_isSound := Pump.isSound_start now
  relay_isSound := Pump.isSound_start now
  sent := Copy.carried_start now
  answered := ⟨[], Copy.carried_start now⟩
  outer_ended := nofun
  inward_closed := nofun
  relay_ended := nofun

variable {α τ : Type} {c c' : RelayedConnection (Recorded α) (Recorded τ)} {limit : Option Nat}
  {now : Nat} {dir : Direction} {p : Pump}

/-- A step of the first pump adds to what is undelivered what it writes. -/
theorem OnTheWay.of_outer [ByteStream α] {client : Recorded α} {near : NearEnd}
    (h : Pump.Transition limit now c.outer c.client (NearEnd.mk c.pipe) dir p client near)
    (hc : c.OnTheWay) : OnTheWay { c with outer := p, client := client, pipe := near.pipe } := by
  have hsent : c.outer.aToB.Carried (produced c.client.history)
      ((accepted c.tunnel.history ++ c.relay.aToB.unwritten) ++ c.pipe.outward.buffer) := by
    rw [List.append_assoc]
    exact hc.sent
  have hsound := h.isSound hc.outer_isSound
  cases h with
  | forth hrunning hmove hphase =>
    obtain ⟨hcarried, houtward⟩ := hmove.into_pipe hc.outer_isSound.aToB hsent
    refine ⟨hsound, hc.relay_isSound, ?_, hc.answered, by simp [Pump.verdict?, hrunning],
      by simp [Pump.outcome, hrunning], fun o ho => ?_⟩
    · rwa [List.append_assoc] at hcarried
    · exact (hc.relay_ended o ho).congr rfl List.prefix_rfl houtward
  | forthEnded hrunning hmove hphase =>
    obtain ⟨hcarried, houtward⟩ := hmove.into_pipe hc.outer_isSound.aToB hsent
    refine ⟨hsound, hc.relay_isSound, ?_, hc.answered, ?_, by rintro ⟨⟩, fun o ho => ?_⟩
    · rwa [List.append_assoc] at hcarried
    · rintro ⟨⟩
      exact hphase
    · exact (hc.relay_ended o ho).congr rfl List.prefix_rfl houtward
  | back hrunning hmove hphase =>
    obtain ⟨hproduced, houtward⟩ := hmove.out_of_pipe hc.outer_isSound.bToA
    refine ⟨hsound, hc.relay_isSound, ?_, hc.answered, by simp [Pump.verdict?, hrunning],
      by simp [Pump.outcome, hrunning], fun o ho => ?_⟩
    · rw [hproduced, undelivered, houtward]
      exact hc.sent
    · exact (hc.relay_ended o ho).congr rfl List.prefix_rfl houtward.trans
  | backEnded hrunning hmove hphase =>
    obtain ⟨hproduced, houtward⟩ := hmove.out_of_pipe hc.outer_isSound.bToA
    refine ⟨hsound, hc.relay_isSound, ?_, hc.answered, by rintro ⟨⟩, by rintro ⟨⟩, fun o ho => ?_⟩
    · rw [hproduced, undelivered, houtward]
      exact hc.sent
    · exact (hc.relay_ended o ho).congr rfl List.prefix_rfl houtward.trans

/-- A release of the first pump closes the pipe and loses nothing that is in it. -/
theorem OnTheWay.of_outer_release [ByteStream α] {client : Recorded α} {near : NearEnd}
    (h : Pump.Release c.outer c.client (NearEnd.mk c.pipe) p client near) (hc : c.OnTheWay) :
    OnTheWay { c with outer := p, client := client, pipe := near.pipe } := by
  have hsound := h.isSound hc.outer_isSound
  have hended := h.verdict?_eq ▸ hc.outer_ended
  cases h with
  | shutB hstage hshut =>
    obtain rfl := NearEnd.eq_of_shutDown? hshut
    exact ⟨hsound, hc.relay_isSound, hc.sent, hc.answered, hended, nofun,
      fun o ho => (hc.relay_ended o ho).congr rfl List.prefix_rfl fun hclosed => by
        simp [hclosed]⟩
  | shutA hstage hshut =>
    refine ⟨hsound, hc.relay_isSound, ?_, hc.answered, hended, fun _ => rfl,
      fun o ho => (hc.relay_ended o ho).congr rfl List.prefix_rfl fun hclosed => ?_⟩
    · rw [((Recorded.parts_of_shutDown? hshut).trans (Recorded.parts_close _)).produced_eq]
      exact hc.sent
    · exact congrArg Channel.close hclosed

/-- The end of the copy to the tunnel is an end of the relay, unless the tunnel gives trouble. -/
theorem relayEnd_of_forth [ByteStream τ] {d : Copy} {far : FarEnd} {tunnel : Recorded τ}
    {failure : Option IoError}
    (h : Copy.Move none now c.relay.aToB (FarEnd.mk c.pipe) c.tunnel d far tunnel)
    (hended : d.phase = .ended failure) :
    tunnel.HasTrouble ∨
      RelayEnd { c with
        relay := ⟨d, c.relay.bToA, .releasingB ⟨.aToB, failure⟩⟩
        pipe := far.pipe
        tunnel := tunnel } ⟨.aToB, failure⟩ := by
  cases failure with
  | none => exact .inr (.delivered (Copy.unwritten_of_ended hended) (h.outward_of_ended hended))
  | some cause =>
    refine (h.failed_to_tunnel hended).imp_right fun ⟨_, hhistory⟩ => .unflushed ?_
    rw [hhistory]
    exact List.mem_concat_self

/-- The end of the copy from the tunnel is an end of the relay, unless the tunnel gives trouble:
the copy has read what the pipe refuses. -/
theorem relayEnd_of_back [ByteStream τ] {d : Copy} {far : FarEnd} {tunnel : Recorded τ}
    {failure : Option IoError} (hc : c.OnTheWay)
    (h : Copy.Move none now c.relay.bToA c.tunnel (FarEnd.mk c.pipe) d tunnel far)
    (hended : d.phase = .ended failure) :
    tunnel.HasTrouble ∨
      RelayEnd { c with
        relay := ⟨c.relay.aToB, d, .releasingB ⟨.bToA, failure⟩⟩
        pipe := far.pipe
        tunnel := tunnel } ⟨.bToA, failure⟩ := by
  refine (h.ended_from_tunnel hc.relay_isSound.bToA hended).imp_right ?_
  rintro ⟨rfl, hheld, rfl⟩
  obtain ⟨taken, hcarried⟩ := hc.answered
  have hgiven := hcarried.taken_append h.not_hasFailed
  refine .broken ?_
  rw [← hgiven]
  exact List.append_ne_nil_of_right_ne_nil _ hheld

/-- A step of the relay moves what is undelivered on to the tunnel, unless the tunnel gives
trouble. -/
theorem OnTheWay.of_relay [ByteStream τ] {far : FarEnd} {tunnel : Recorded τ}
    (h : Pump.Transition none now c.relay (FarEnd.mk c.pipe) c.tunnel dir p far tunnel)
    (hc : c.OnTheWay) :
    tunnel.HasTrouble ∨ OnTheWay { c with relay := p, pipe := far.pipe, tunnel := tunnel } := by
  have hsound := h.isSound hc.relay_isSound
  cases h with
  | forth hrunning hmove hphase =>
    obtain ⟨hproduced, hinward, htrouble | hbytes⟩ := hmove.to_tunnel hc.relay_isSound.aToB
    · exact .inl htrouble
    refine .inr ⟨hc.outer_isSound, hsound, ?_, ?_, hc.outer_ended, ?_,
      by simp [Pump.verdict?, hrunning]⟩
    · rw [undelivered, hbytes]
      exact hc.sent
    · rw [hproduced]
      exact hc.answered
    · rw [hinward]
      exact hc.inward_closed
  | forthEnded hrunning hmove hphase =>
    obtain ⟨hproduced, hinward, htrouble | hbytes⟩ := hmove.to_tunnel hc.relay_isSound.aToB
    · exact .inl htrouble
    rcases relayEnd_of_forth hmove hphase with htrouble | hend
    · exact .inl htrouble
    refine .inr ⟨hc.outer_isSound, hsound, ?_, ?_, hc.outer_ended, ?_, ?_⟩
    · rw [undelivered, hbytes]
      exact hc.sent
    · rw [hproduced]
      exact hc.answered
    · rw [hinward]
      exact hc.inward_closed
    · rintro _ ⟨⟩
      exact hend
  | back hrunning hmove hphase =>
    -- nothing that goes to the tunnel is touched
    obtain ⟨houtward, hinward, haccepted, hanswered⟩ :=
      hmove.from_tunnel hc.relay_isSound.bToA hc.answered
    refine .inr ⟨hc.outer_isSound, hsound, ?_, hanswered, hc.outer_ended, fun hended => ?_,
      by simp [Pump.verdict?, hrunning]⟩
    · rw [undelivered, houtward, haccepted]
      exact hc.sent
    · have hclosed := hc.inward_closed hended
      rwa [hinward hclosed]
  | backEnded hrunning hmove hphase =>
    obtain ⟨houtward, hinward, haccepted, hanswered⟩ :=
      hmove.from_tunnel hc.relay_isSound.bToA hc.answered
    rcases relayEnd_of_back hc hmove hphase with htrouble | hend
    · exact .inl htrouble
    refine .inr ⟨hc.outer_isSound, hsound, ?_, hanswered, hc.outer_ended, fun hended => ?_, ?_⟩
    · rw [undelivered, houtward, haccepted]
      exact hc.sent
    · have hclosed := hc.inward_closed hended
      rwa [hinward hclosed]
    · rintro _ ⟨⟩
      exact hend

/-- A release of the relay leaves what is undelivered as it is. -/
theorem OnTheWay.of_relay_release [ByteStream τ] {far : FarEnd} {tunnel : Recorded τ}
    (h : Pump.Release c.relay (FarEnd.mk c.pipe) c.tunnel p far tunnel) (hc : c.OnTheWay) :
    OnTheWay { c with relay := p, pipe := far.pipe, tunnel := tunnel } := by
  have hsound := h.isSound hc.relay_isSound
  have hended := h.verdict?_eq ▸ hc.relay_ended
  cases h with
  | shutB hstage hshut =>
    have hparts := Recorded.parts_of_shutDown? hshut
    refine ⟨hc.outer_isSound, hsound, ?_, ?_, hc.outer_ended, hc.inward_closed,
      fun o ho => (hended o ho).congr rfl hparts.history_isPrefix id⟩
    · rw [hparts.accepted_eq]
      exact hc.sent
    · rw [hparts.produced_eq]
      exact hc.answered
  | shutA hstage hshut =>
    obtain rfl := FarEnd.eq_of_shutDown? hshut
    have hparts := Recorded.parts_close c.tunnel
    refine ⟨hc.outer_isSound, hsound, ?_, ?_, hc.outer_ended, fun _ => rfl,
      fun o ho => (hended o ho).congr rfl hparts.history_isPrefix fun hclosed => ?_⟩
    · rw [hparts.accepted_eq]
      exact hc.sent
    · rw [hparts.produced_eq]
      exact hc.answered
    · exact congrArg Channel.close hclosed

/-- Trouble stays, whatever the relay does. -/
theorem hasTrouble_of_relay [ByteStream τ] {far far' : FarEnd} {tunnel tunnel' : Recorded τ}
    {q : Pump} (h : Pump.Transition limit now p far tunnel dir q far' tunnel') (hp : p.IsSound)
    (htrouble : tunnel.HasTrouble) : tunnel'.HasTrouble := by
  cases h with
  | forth _ hmove _ | forthEnded _ hmove _ =>
    obtain ⟨_, _, -, htakes, -⟩ := hmove.flow hp.aToB
    exact htrouble.of_isPrefix htakes.history_isPrefix
  | back _ hmove _ | backEnded _ hmove _ =>
    obtain ⟨_, _, hgives, -, -⟩ := hmove.flow hp.bToA
    exact htrouble.of_isPrefix hgives.history_isPrefix

end RelayedConnection

/-! ### Runs -/

/-- What may happen to a connection through a tunnel. -/
inductive RelayMove (α τ : Type) where
  /-- One direction of one pump takes a step at the given time. -/
  | copy (part : RelayPart) (dir : Direction) (now : Nat)
  /-- One pump takes a step of shutting its streams down. -/
  | release (part : RelayPart)
  /-- The client and the tunnel change by themselves. -/
  | outside (client : α) (tunnel : τ)

namespace RelayedConnection

variable {α τ : Type} [ByteStream α] [ByteStream τ] {limit : Option Nat}
  {c c' : RelayedConnection (Recorded α) (Recorded τ)}

/-- The connection after a move, if it can be made. -/
def act (limit : Option Nat) (c : RelayedConnection (Recorded α) (Recorded τ)) :
    RelayMove α τ → Option (RelayedConnection (Recorded α) (Recorded τ))
  | .copy part dir now => c.step limit now part dir
  | .release part => c.release part
  | .outside client tunnel => some { c with
      client := { c.client with stream := client }, tunnel := { c.tunnel with stream := tunnel } }

/-- The connection after moves in order, if all of them can be made. -/
def run (limit : Option Nat) (c : RelayedConnection (Recorded α) (Recorded τ))
    (moves : List (RelayMove α τ)) : Option (RelayedConnection (Recorded α) (Recorded τ)) :=
  moves.foldlM (act limit) c

/-- Until the tunnel gives trouble, the bytes of the client are on their way. -/
def Accounted {α τ : Type} (c : RelayedConnection (Recorded α) (Recorded τ)) : Prop :=
  c.relay.IsSound ∧ (c.tunnel.HasTrouble ∨ c.OnTheWay)

theorem accounted_of_act {m : RelayMove α τ} (h : act none c m = some c') (hc : c.Accounted) :
    c'.Accounted := by
  obtain ⟨hsound, hc⟩ := hc
  cases m with
  | copy part dir now =>
    cases part with
    | outer =>
      obtain ⟨⟨p, client, near⟩, hstep, rfl⟩ := Option.map_eq_some_iff.1 h
      refine ⟨hsound, hc.imp_right fun hway => ?_⟩
      exact hway.of_outer (Pump.transition_of_step hstep)
    | relay =>
      obtain ⟨⟨p, far, tunnel⟩, hstep, rfl⟩ := Option.map_eq_some_iff.1 h
      have htransition := Pump.transition_of_step hstep
      refine ⟨htransition.isSound hsound, ?_⟩
      rcases hc with htrouble | hway
      · exact .inl (hasTrouble_of_relay htransition hsound htrouble)
      · exact hway.of_relay htransition
  | release part =>
    cases part with
    | outer =>
      obtain ⟨⟨p, client, near⟩, hrelease, rfl⟩ := Option.map_eq_some_iff.1 h
      refine ⟨hsound, hc.imp_right fun hway => ?_⟩
      exact hway.of_outer_release (Pump.release_eq_some_iff.1 hrelease)
    | relay =>
      obtain ⟨⟨p, far, tunnel⟩, hrelease, rfl⟩ := Option.map_eq_some_iff.1 h
      have hrelease := Pump.release_eq_some_iff.1 hrelease
      refine ⟨hrelease.isSound hsound, hc.imp ?_ fun hway => hway.of_relay_release hrelease⟩
      cases hrelease with
      | shutB _ hshut => exact (·.of_isPrefix (Recorded.parts_of_shutDown? hshut).history_isPrefix)
      | shutA => exact (·.of_isPrefix (Recorded.parts_close c.tunnel).history_isPrefix)
  | outside client tunnel =>
    cases h
    refine ⟨hsound, hc.imp id fun hway => ?_⟩
    refine ⟨hway.outer_isSound, hway.relay_isSound, hway.sent, hway.answered, hway.outer_ended,
      hway.inward_closed, fun o ho => (hway.relay_ended o ho).congr rfl List.prefix_rfl id⟩

theorem accounted_of_run {moves : List (RelayMove α τ)} (hrun : c.run none moves = some c')
    (hc : c.Accounted) : c'.Accounted :=
  foldlM_induction (fun h hc => accounted_of_act h hc) hrun hc

/-- When the copying of the relay has ended, the tunnel is only parted from. -/
theorem parts_tunnel_of_run {moves : List (RelayMove α τ)} (hended : c.relay.verdict?.isSome)
    (hrun : c.run limit moves = some c') :
    c'.relay.verdict? = c.relay.verdict? ∧ c.tunnel.Parts c'.tunnel := by
  refine foldlM_induction (P := fun d => d.relay.verdict? = c.relay.verdict? ∧
    c.tunnel.Parts d.tunnel) ?_ hrun ⟨rfl, .refl _⟩
  rintro d m d' hact ⟨hverdict, htunnel⟩
  cases m with
  | copy part dir now =>
    cases part with
    | outer =>
      obtain ⟨⟨p, client, near⟩, hstep, rfl⟩ := Option.map_eq_some_iff.1 hact
      exact ⟨hverdict, htunnel⟩
    | relay => simp [act, step, Pump.step, hverdict, hended] at hact
  | release part =>
    cases part with
    | outer =>
      obtain ⟨⟨p, client, near⟩, hrelease, rfl⟩ := Option.map_eq_some_iff.1 hact
      exact ⟨hverdict, htunnel⟩
    | relay =>
      obtain ⟨⟨p, far, tunnel⟩, hrelease, rfl⟩ := Option.map_eq_some_iff.1 hact
      have hrelease := Pump.release_eq_some_iff.1 hrelease
      refine ⟨hrelease.verdict?_eq.trans hverdict, ?_⟩
      cases hrelease with
      | shutB _ hshut => exact htunnel.trans (Recorded.parts_of_shutDown? hshut)
      | shutA => exact htunnel.trans (Recorded.parts_close _)
  | outside client tunnel =>
    cases hact
    exact ⟨hverdict, htunnel⟩

/-! ### Answers that end the relay -/

/-- The relay is about to read from the tunnel, and the tunnel has something to give. -/
def HasAnswer (c : RelayedConnection (Recorded α) (Recorded τ)) : Prop :=
  ∃ since data tunnel, c.relay.bToA.phase = .reading since ∧
    ByteStream.read Copy.bufferSize c.tunnel.stream = (.bytes data, tunnel) ∧ data ≠ []

/-- When the pipe is closed, an answer of the tunnel can end the relay, whatever is undelivered
then: the relay reads the answer and cannot write it. -/
theorem exists_run_broken (hclosed : c.pipe.inward.isClosed = true)
    (hrunning : c.relay.verdict? = none) (hanswer : c.HasAnswer) :
    ∃ moves c', c.run limit moves = some c' ∧
      c'.relay.verdict? = some ⟨.bToA, some .brokenPipe⟩ ∧ c'.undelivered = c.undelivered ∧
      accepted c'.tunnel.history = accepted c.tunnel.history := by
  obtain ⟨since, data, tunnel, hphase, hread, hdata⟩ := hanswer
  have hrecorded : ByteStream.read Copy.bufferSize c.tunnel =
      (.bytes data, c.tunnel.note tunnel (.gave data)) := by
    simp only [ByteStream.read] at hread ⊢
    rw [hread]
  -- the chunk is read, and the write that follows is refused
  have hgot : c.relay.bToA.step limit 0 c.tunnel (FarEnd.mk c.pipe) =
      some ({ c.relay.bToA with phase := .writing data data.length },
        c.tunnel.note tunnel (.gave data), FarEnd.mk c.pipe) :=
    Copy.step_eq_some_iff.2 (.gotChunk hphase hrecorded hdata)
  have hrefused : Copy.step limit 0 { c.relay.bToA with phase := .writing data data.length }
      (c.tunnel.note tunnel (.gave data)) (FarEnd.mk c.pipe) =
      some (c.relay.bToA.finish (some .brokenPipe), c.tunnel.note tunnel (.gave data),
        FarEnd.mk c.pipe) :=
    Copy.step_eq_some_iff.2 (.writeFailed rfl (FarEnd.write_of_closed hclosed data))
  have hfirst : act limit c (.copy .relay .bToA 0) = some { c with
      relay := { c.relay with bToA := { c.relay.bToA with phase := .writing data data.length } }
      tunnel := c.tunnel.note tunnel (.gave data) } := by
    simp [act, step, Pump.step, Pump.settle, Pump.copy, hrunning, hgot]
  have hstill : Pump.verdict?
      { c.relay with bToA := { c.relay.bToA with phase := .writing data data.length } } = none :=
    hrunning
  have hsecond : act limit { c with
      relay := { c.relay with bToA := { c.relay.bToA with phase := .writing data data.length } }
      tunnel := c.tunnel.note tunnel (.gave data) } (.copy .relay .bToA 0) = some { c with
      relay := ⟨c.relay.aToB, c.relay.bToA.finish (some .brokenPipe),
        .releasingB ⟨.bToA, some .brokenPipe⟩⟩
      tunnel := c.tunnel.note tunnel (.gave data) } := by
    simp [act, step, Pump.step, Pump.settle, Pump.copy, hstill, hrefused, Copy.finish]
  refine ⟨[.copy .relay .bToA 0, .copy .relay .bToA 0], _, foldlM_cons_eq_some_iff.2 ⟨_, hfirst,
    foldlM_cons_eq_some_iff.2 ⟨_, hsecond, rfl⟩⟩, rfl, rfl, ?_⟩
  simp [Recorded.note, accepted]

/-! ### What has reached the tunnel -/

/-- **What reaches a tunnel.** Suppose that reads have no time limit, that the tunnel gives no
trouble, and that the first pump has returned with the end of the client. Then what the client has
sent, as many bytes as the pump has counted, is what the tunnel has taken and, after it, what is
undelivered. When the copying of the relay ends, and so when the relay returns, it is in one of
three ways: all is delivered when it has come to the end of the pipe; but what is undelivered is
lost, as nothing is written to the tunnel any more, when the pipe has refused an answer of the
tunnel, or when the tunnel could not be flushed. As long as the relay goes on, any answer of the
tunnel can end it, whatever is undelivered. -/
theorem delivery_of_run {now : Nat} {client : α} {tunnel : τ} {moves : List (RelayMove α τ)}
    (hrun : (start now (Recorded.fresh client) (Recorded.fresh tunnel)).run none moves = some c)
    (htrouble : ¬ c.tunnel.HasTrouble) (hended : c.outer.outcome = some ⟨.aToB, none⟩) :
    c.outer.aToB.count = (produced c.client.history).length ∧
      accepted c.tunnel.history ++ c.undelivered = produced c.client.history ∧
      (accepted c.tunnel.history = produced c.client.history ↔ c.undelivered = []) ∧
      (∀ o, c.relay.outcome = some o → c.relay.verdict? = some o) ∧
      (∀ o, c.relay.verdict? = some o →
        c.RelayEnd o ∧ (o = ⟨.aToB, none⟩ → c.undelivered = []) ∧
        ∀ more c', c.run none more = some c' → c'.relay.verdict? = some o ∧
          accepted c'.tunnel.history = accepted c.tunnel.history) ∧
      (c.relay.verdict? = none → c.HasAnswer → ∃ more c', c.run none more = some c' ∧
        c'.relay.verdict? = some ⟨.bToA, some .brokenPipe⟩ ∧ c'.undelivered = c.undelivered ∧
        accepted c'.tunnel.history = accepted c.tunnel.history) := by
  have hstart : (start now (Recorded.fresh client) (Recorded.fresh tunnel)).Accounted :=
    ⟨Pump.isSound_start now, .inr (onTheWay_start now client tunnel)⟩
  obtain ⟨-, hc⟩ := accounted_of_run hrun hstart
  have hway := hc.resolve_left htrouble
  have hclosed := hway.inward_closed (Option.isSome_of_mem hended)
  obtain ⟨hbytes, hcount⟩ :=
    hway.sent.of_ended (hway.outer_ended (Pump.verdict?_of_outcome hended))
  refine ⟨hcount, hbytes, ?_, fun o => Pump.verdict?_of_outcome,
    fun o ho => ⟨hway.relay_ended o ho, ?_, fun more c' hmore => ?_⟩, exists_run_broken hclosed⟩
  · rw [← hbytes]
    exact List.self_eq_append_right
  · rintro rfl
    cases hway.relay_ended _ ho with
    | delivered hheld houtward => rw [undelivered, hheld, houtward, List.append_nil]
  · obtain ⟨hverdict, hparts⟩ := parts_tunnel_of_run (Option.isSome_of_mem ho) hmore
    exact ⟨hverdict.trans ho, hparts.accepted_eq⟩

/-- A tunnel that sends nothing: the relay comes to the end of the pipe. -/
theorem delivery_of_run_silent_tunnel :
    ∃ c : RelayedConnection (Recorded Peer) (Recorded Peer),
      (start 0 (Recorded.fresh ((Peer.fresh.feed [7, 8]).arrive .ended))
        (Recorded.fresh Peer.fresh)).run none
        [.copy .outer .aToB 0, .copy .outer .aToB 0, .copy .outer .aToB 0, .copy .outer .aToB 0,
          .release .outer, .release .outer, .copy .relay .aToB 0, .copy .relay .aToB 0,
          .copy .relay .aToB 0, .copy .relay .aToB 0, .release .relay, .release .relay] =
        some c ∧ ¬ c.tunnel.HasTrouble ∧ c.outer.outcome = some ⟨.aToB, none⟩ ∧
        c.relay.outcome = some ⟨.aToB, none⟩ ∧
        accepted c.tunnel.history = produced c.client.history := by
  have hlast : ((start 0 (Recorded.fresh ((Peer.fresh.feed [7, 8]).arrive .ended))
      (Recorded.fresh Peer.fresh)).run none
      [.copy .outer .aToB 0, .copy .outer .aToB 0, .copy .outer .aToB 0, .copy .outer .aToB 0,
        .release .outer, .release .outer, .copy .relay .aToB 0, .copy .relay .aToB 0,
        .copy .relay .aToB 0, .copy .relay .aToB 0, .release .relay, .release .relay]).map
      (fun c => (decide c.tunnel.HasTrouble, c.outer.outcome, c.relay.outcome)) =
      some (false, some ⟨.aToB, none⟩, some ⟨.aToB, none⟩) := by decide
  obtain ⟨c, hrun, heq⟩ := Option.map_eq_some_iff.1 hlast
  obtain ⟨htrouble, houter, hrelay⟩ : decide c.tunnel.HasTrouble = false ∧
      c.outer.outcome = some ⟨.aToB, none⟩ ∧ c.relay.outcome = some ⟨.aToB, none⟩ := by
    simpa using heq
  rw [decide_eq_false_iff_not] at htrouble
  obtain ⟨-, -, hiff, hreturned, hend, -⟩ := delivery_of_run hrun htrouble houter
  exact ⟨c, hrun, htrouble, houter, hrelay, hiff.2 ((hend _ (hreturned _ hrelay)).2.1 rfl)⟩

/-- A tunnel that sends one byte when the client has gone: the relay ends with it, and what the
client has sent is lost, although the tunnel would take all of it. -/
theorem undelivered_when_relay_ends :
    ∃ moves, ∃ c : RelayedConnection (Recorded Peer) (Recorded Peer),
      (start 0 (Recorded.fresh ((Peer.fresh.feed [7, 8]).arrive .ended))
        (Recorded.fresh (Peer.fresh.feed [9]))).run none moves = some c ∧
        ¬ c.tunnel.HasTrouble ∧ c.outer.outcome = some ⟨.aToB, none⟩ ∧
        c.relay.outcome = some ⟨.bToA, some .brokenPipe⟩ ∧ c.outer.aToB.count = 2 ∧
        produced c.client.history = [7, 8] ∧ accepted c.tunnel.history = [] := by
  refine ⟨[.copy .outer .aToB 0, .copy .outer .aToB 0, .copy .outer .aToB 0,
    .copy .outer .aToB 0, .release .outer, .release .outer, .copy .relay .bToA 0,
    .copy .relay .bToA 0, .release .relay, .release .relay], ?_⟩
  have hlast : ((start 0 (Recorded.fresh ((Peer.fresh.feed [7, 8]).arrive .ended))
      (Recorded.fresh (Peer.fresh.feed [9]))).run none
      [.copy .outer .aToB 0, .copy .outer .aToB 0, .copy .outer .aToB 0, .copy .outer .aToB 0,
        .release .outer, .release .outer, .copy .relay .bToA 0, .copy .relay .bToA 0,
        .release .relay, .release .relay]).map
      (fun c => (decide c.tunnel.HasTrouble, c.outer.outcome, c.relay.outcome,
        c.outer.aToB.count, produced c.client.history, accepted c.tunnel.history)) =
      some (false, some ⟨.aToB, none⟩, some ⟨.bToA, some .brokenPipe⟩, 2, [7, 8], []) := by
    rfl
  obtain ⟨c, hrun, heq⟩ := Option.map_eq_some_iff.1 hlast
  exact ⟨c, hrun, by simpa using heq⟩

end RelayedConnection

end Gatehouse
