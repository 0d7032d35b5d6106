import Gatehouse.Forwarding.Bytes
import Gatehouse.Proofs.Pump.Session
import Mathlib.Data.List.DropRight

/-!
# What a pump counts

A direction of a pump counts a chunk when all of it has been written and the sink has been flushed
after it. So of the bytes that a peer has taken, those before its last flush have been counted, and
nothing else has. The bytes that it has taken since are the first ones of the chunk at hand. If the
pump ends in the middle of the chunk, because a write or flush fails or because the other direction
ends first, they are never counted, although the peer has taken them.

## Main definitions

* `unflushed`: the bytes that a stream has taken since its last flush.
* `Copy.Counts`: a copy has counted what its sink has taken before its last flush.

## Main results

* `Copy.Counts.of_move`: a move keeps a copy counting so.
* `PumpSession.counts_of_run`: what a pump has counted when it has returned, and what a listener
  adds to its counters for it.
* `PumpSession.uncounted_when_cancelled`: a peer that has taken bytes which are never counted.
-/

namespace Gatehouse

/-! ### Bytes since the last flush -/

theorem accepted_took (data : Bytes) : accepted [.took data] = data :=
  List.append_nil data

/-- The bytes that the writes of a history have taken since the last flush. -/
def unflushed (history : List StreamEvent) : Bytes :=
  accepted (history.rtakeWhile (· ≠ .flushed))

theorem unflushed_concat_of_ne {e : StreamEvent} (he : e ≠ .flushed) (history : List StreamEvent) :
    unflushed (history ++ [e]) = unflushed history ++ accepted [e] := by
  rw [unflushed, List.rtakeWhile_concat_pos _ _ _ (by simpa using he), accepted_append]
  rfl

theorem unflushed_concat_flushed (history : List StreamEvent) :
    unflushed (history ++ [.flushed]) = [] := by
  rw [unflushed, List.rtakeWhile_concat_neg _ _ _ (by simp)]
  rfl

section

variable {σ : Type} {r r' : Recorded σ} {data : Bytes}

/-- Reading from a stream does not touch what it has taken since its last flush. -/
theorem Gives.unflushed_eq [ByteStream σ] (h : Gives r data r') :
    unflushed r'.history = unflushed r.history := by
  cases h with
  | untouched => rfl
  | read h =>
    rw [Recorded.read_bytes h, unflushed_concat_of_ne (by simp)]
    exact List.append_nil _
  | failed h =>
    rw [Recorded.read_failed h, unflushed_concat_of_ne (by simp)]
    exact List.append_nil _

/-- So does parting from it. -/
theorem Recorded.Parts.unflushed_eq (h : r.Parts r') :
    unflushed r'.history = unflushed r.history := by
  obtain ⟨events, hhistory, hevents⟩ := h
  rw [hhistory]
  clear hhistory
  induction events using List.reverseRecOn with
  | nil => rw [List.append_nil]
  | append_singleton events e ih =>
    rw [List.all_append, Bool.and_eq_true] at hevents
    have hparting : e.isParting = true := by simpa using hevents.2
    have he : e ≠ .flushed := by
      rintro rfl
      cases hparting
    have haccepted : accepted [e] = [] := by cases e <;> first | rfl | cases hparting
    rw [← List.append_assoc, unflushed_concat_of_ne he, ih hevents.1, haccepted, List.append_nil]

end

/-! ### What a copy has counted -/

namespace Copy

/-- A copy has counted what its sink has taken before its last flush. What the sink has taken since
and the copy has still to write are first parts of a chunk that the source has given. -/
structure Counts {α β : Type} (c : Copy) (source : Recorded α) (sink : Recorded β) : Prop where
  count_add : c.count + (unflushed sink.history).length = (accepted sink.history).length
  chunk : unflushed sink.history ++ c.unwritten = [] ∨
    ∃ data, .gave data ∈ source.history ∧ unflushed sink.history ++ c.unwritten <+: data

theorem counts_start {α β : Type} (now : Nat) (a : α) (b : β) :
    (start now).Counts (.fresh a) (.fresh b) where
  count_add := rfl
  chunk := .inl rfl

section

variable {α β : Type} {c c' : Copy} {source source' : Recorded α} {sink sink' : Recorded β}

/-- A chunk at hand goes on being one when less of it is held and the source gives more. -/
theorem Counts.chunk_of_isPrefix (hc : c.Counts source sink) {held : Bytes}
    (hheld : held <+: unflushed sink.history ++ c.unwritten)
    (hsource : source.history <+: source'.history) :
    held = [] ∨ ∃ data, .gave data ∈ source'.history ∧ held <+: data := by
  rcases hc.chunk with hnone | ⟨data, hgave, hdata⟩
  · exact .inl (List.prefix_nil.1 (hnone ▸ hheld))
  · exact .inr ⟨data, hsource.subset hgave, hheld.trans hdata⟩

/-- A copy goes on counting if its sink is not touched and it holds no more than before. -/
theorem Counts.of_untouched (hc : c.Counts source sink) (hcount : c'.count = c.count)
    (hheld : c'.unwritten <+: c.unwritten) (hsource : source.history <+: source'.history) :
    c'.Counts source' sink where
  count_add := hcount ▸ hc.count_add
  chunk := hc.chunk_of_isPrefix ((List.prefix_append_right_inj _).2 hheld) hsource

/-- A copy goes on counting if its sink takes a part of what the copy holds, and is not flushed. -/
theorem Counts.of_event (hc : c.Counts source sink) {e : StreamEvent}
    (hsink : sink'.history = sink.history ++ [e]) (he : e ≠ .flushed) (hcount : c'.count = c.count)
    (hheld : accepted [e] ++ c'.unwritten <+: c.unwritten)
    (hsource : source.history <+: source'.history) : c'.Counts source' sink' := by
  have hunflushed := hsink ▸ unflushed_concat_of_ne he sink.history
  have haccepted := hsink ▸ accepted_append sink.history [e]
  refine ⟨?_, ?_⟩
  · rw [hunflushed, haccepted, hcount, List.length_append, List.length_append, ← Nat.add_assoc,
      hc.count_add]
  · rw [hunflushed, List.append_assoc]
    exact hc.chunk_of_isPrefix ((List.prefix_append_right_inj _).2 hheld) hsource

/-- A copy goes on counting when its streams are parted from. -/
theorem Counts.of_parts (hc : c.Counts source sink) (hsource : source.Parts source')
    (hsink : sink.Parts sink') : c.Counts source' sink' := by
  refine ⟨?_, ?_⟩
  · rw [hsink.unflushed_eq, hsink.accepted_eq]
    exact hc.count_add
  · rw [hsink.unflushed_eq]
    exact hc.chunk_of_isPrefix List.prefix_rfl hsource.history_isPrefix

/-- A copy that has written and counted all that it holds has counted all that its sink has
taken. -/
theorem Counts.unflushed_eq_nil (hc : c.Counts source sink) (hrelays : c.Relays source sink)
    (hfailed : ¬ c.HasFailed) (hnone : c.uncounted = 0) : unflushed sink.history = [] := by
  have hcount := hc.count_add
  have hcounted := hrelays.carried.count_add hfailed
  exact List.length_eq_zero_iff.1 (by omega)

end

variable {α β : Type} [ByteStream α] [ByteStream β] {limit : Option Nat} {now : Nat} {c c' d : Copy}
  {source source' : Recorded α} {sink sink' : Recorded β}

/-- Its own moves keep a copy counting. -/
theorem Counts.of_move (h : Move limit now c source sink c' source' sink')
    (hrelays : c.Relays source sink) (hc : c.Counts source sink) : c'.Counts source' sink' := by
  have hcount := hc.count_add
  have hcounted := hrelays.carried.count_add h.not_hasFailed
  have hsource : source.history <+: source'.history := by
    obtain ⟨input, output, hgives, -⟩ := h.flow hrelays.isSound
    exact hgives.history_isPrefix
  cases h with
  | timedOut | readFailed | sourceEnded => exact hc.of_untouched rfl List.nil_prefix hsource
  | @gotChunk _ data _ hphase hread hdata =>
    -- Nothing has been taken since the last flush, because nothing is left to be counted.
    have hnone : unflushed sink.history = [] := by
      simp only [uncounted, hphase] at hcounted
      exact List.length_eq_zero_iff.1 (by omega)
    refine ⟨hcount, .inr ⟨data, ?_, ?_⟩⟩
    · rw [Recorded.read_bytes hread]
      exact List.mem_concat_self
    · rw [hnone]
      exact List.prefix_rfl
  | writeFailed hphase hwrite =>
    exact hc.of_event (Recorded.write_failed hwrite) (by simp) rfl List.nil_prefix hsource
  | wroteNothing hphase hwrite =>
    exact hc.of_event (Recorded.write_accepted hwrite) (by simp) rfl List.nil_prefix hsource
  | @wroteSome rest _ n _ hphase hwrite hn hrest =>
    refine hc.of_event (Recorded.write_accepted hwrite) (by simp) rfl ?_ hsource
    simp only [accepted_took, unwritten, hphase, List.take_append_drop]
    exact List.prefix_rfl
  | @wroteAll rest _ n _ hphase hwrite hn hrest =>
    refine hc.of_event (Recorded.write_accepted hwrite) (by simp) rfl ?_ hsource
    simp only [accepted_took, unwritten, hphase, List.append_nil]
    exact List.take_prefix n rest
  | flushFailed hphase hflush =>
    exact hc.of_event (Recorded.flush_failed hflush) (by simp) rfl List.nil_prefix hsource
  | @flushed size _ hphase hflush =>
    -- The whole chunk is counted now, and it is all that was taken since the flush before.
    have hhistory := Recorded.flush_flushed hflush
    simp only [uncounted, hphase] at hcounted
    refine ⟨?_, .inl ?_⟩
    · rw [hhistory, unflushed_concat_flushed, accepted_append, List.length_append]
      exact hcounted
    · rw [hhistory, unflushed_concat_flushed]
      rfl

/-- The moves of the copy the other way keep a copy counting. -/
theorem Counts.of_opposite (h : Move limit now c source sink c' source' sink')
    (hc : c.IsSound) (hd : d.Counts sink source) : d.Counts sink' source' := by
  obtain ⟨input, output, hgives, htakes, -⟩ := h.flow hc
  refine ⟨?_, ?_⟩
  · rw [hgives.unflushed_eq, hgives.accepted_eq]
    exact hd.count_add
  · rw [hgives.unflushed_eq]
    exact hd.chunk_of_isPrefix List.prefix_rfl htakes.history_isPrefix

end Copy

/-! ### What a pump has counted -/

/-- The bytes that a pump has counted in a direction. -/
def PumpStats.moved (x : PumpStats) : Direction → Nat
  | .aToB => x.toB
  | .bToA => x.fromB

namespace PumpSession

/-- What has been done to the stream that a direction writes. -/
def sinkHistory {α β : Type} (s : PumpSession α β) : Direction → List StreamEvent
  | .aToB => s.b.history
  | .bToA => s.a.history

/-- Both copies of a session have counted what their sinks had taken before their last flush. -/
structure Counts {α β : Type} (s : PumpSession α β) : Prop where
  faithful : s.Faithful
  forth : s.pump.aToB.Counts s.a s.b
  back : s.pump.bToA.Counts s.b s.a

theorem counts_start {α β : Type} (now : Nat) (a : α) (b : β) : (start now a b).Counts where
  faithful := faithful_start now a b
  forth := Copy.counts_start now a b
  back := Copy.counts_start now b a

/-- What each direction of a session has counted. -/
theorem Counts.copy {α β : Type} {s : PumpSession α β} (hs : s.Counts) (dir : Direction) :
    (s.pump.copy dir).count + (unflushed (s.sinkHistory dir)).length =
        (accepted (s.sinkHistory dir)).length ∧
      (unflushed (s.sinkHistory dir) = [] ∨ ∃ data, .gave data ∈ s.sourceHistory dir ∧
        unflushed (s.sinkHistory dir) <+: data) ∧
      (¬ (s.pump.copy dir).HasFailed → (s.pump.copy dir).uncounted = 0 →
        unflushed (s.sinkHistory dir) = []) := by
  cases dir with
  | aToB =>
    exact ⟨hs.forth.count_add, hs.forth.chunk_of_isPrefix (List.prefix_append _ _) List.prefix_rfl,
      hs.forth.unflushed_eq_nil hs.faithful.forth⟩
  | bToA =>
    exact ⟨hs.back.count_add, hs.back.chunk_of_isPrefix (List.prefix_append _ _) List.prefix_rfl,
      hs.back.unflushed_eq_nil hs.faithful.back⟩

variable {α β : Type} [ByteStream α] [ByteStream β] {limit : Option Nat} {s s' : PumpSession α β}

/-- A transition of the pump keeps a session counting. -/
theorem Counts.of_transition {now : Nat} {dir : Direction} {p : Pump} {a : Recorded α}
    {b : Recorded β} (h : Pump.Transition limit now s.pump s.a s.b dir p a b) (hs : s.Counts) :
    Counts ⟨p, a, b⟩ := by
  have hfaithful := hs.faithful.of_transition h
  have hforth := hs.faithful.forth
  have hback := hs.faithful.back
  cases h with
  | forth _ hmove | forthEnded _ hmove =>
    exact ⟨hfaithful, hs.forth.of_move hmove hforth, hs.back.of_opposite hmove hforth.isSound⟩
  | back _ hmove | backEnded _ hmove =>
    exact ⟨hfaithful, hs.forth.of_opposite hmove hback.isSound, hs.back.of_move hmove hback⟩

/-- A release keeps a session counting. -/
theorem Counts.of_release {p : Pump} {a : Recorded α} {b : Recorded β}
    (h : Pump.Release s.pump s.a s.b p a b) (hs : s.Counts) : Counts ⟨p, a, b⟩ := by
  obtain ⟨ha, hb⟩ := h.parts
  have hforth : p.aToB = s.pump.aToB := h.copy_eq .aToB
  have hback : p.bToA = s.pump.bToA := h.copy_eq .bToA
  exact ⟨hs.faithful.of_release h, hforth ▸ hs.forth.of_parts ha hb,
    hback ▸ hs.back.of_parts hb ha⟩

/-- A move keeps a session counting. -/
theorem Counts.of_step {m : PumpMove α β} (h : step limit s m = some s') (hs : s.Counts) :
    s'.Counts := by
  cases m with
  | copy dir now =>
    obtain ⟨⟨p, a, b⟩, hstep, rfl⟩ := Option.map_eq_some_iff.1 h
    exact hs.of_transition (Pump.transition_of_step hstep)
  | release =>
    obtain ⟨⟨p, a, b⟩, hrelease, rfl⟩ := Option.map_eq_some_iff.1 h
    exact hs.of_release (Pump.release_eq_some_iff.1 hrelease)
  | outside a b =>
    refine ⟨hs.faithful.of_step h, ?_, ?_⟩
    all_goals cases h
    · exact ⟨hs.forth.count_add, hs.forth.chunk⟩
    · exact ⟨hs.back.count_add, hs.back.chunk⟩

theorem hasCounted_of_run {now : Nat} {a : α} {b : β} {moves : List (PumpMove α β)}
    (hrun : (start now a b).run limit moves = some s) : s.Counts :=
  foldlM_induction (fun h hs => Counts.of_step h hs) hrun (counts_start now a b)

/-- What a pump has counted when it has returned, in whatever way. In each direction it has counted
the bytes that the peer had taken before its last flush, so what the peer has taken is counted just
if nothing was taken since. Otherwise the bytes that are missing are the first ones of a chunk that
was read. None are missing in a direction that has come to the end of its stream, nor in one that
was waiting for bytes. A listener adds to its counters what the pump has counted. -/
theorem counts_of_run {now : Nat} {a : α} {b : β} {moves : List (PumpMove α β)}
    (hrun : (start now a b).run limit moves = some s) {stats : PumpStats}
    (hended : s.pump.stats? = some stats) :
    (∀ dir,
      let taken := s.sinkHistory dir
      stats.moved dir + (unflushed taken).length = (accepted taken).length ∧
      (stats.moved dir = (accepted taken).length ↔ unflushed taken = []) ∧
      (unflushed taken = [] ∨
        ∃ data, .gave data ∈ s.sourceHistory dir ∧ unflushed taken <+: data) ∧
      (s.pump.outcome = some ⟨dir, none⟩ → unflushed taken = []) ∧
      (∀ since, (s.pump.copy dir).phase = .reading since → unflushed taken = [])) ∧
    ∃ ended, ByteForwarding.ofPump? s.pump = some ended ∧
      ∀ counters : ListenerStats, ended.record counters = counters.addBytes
        ((accepted s.b.history).length - (unflushed s.b.history).length)
        ((accepted s.a.history).length - (unflushed s.a.history).length) := by
  obtain ⟨o, ho, rfl⟩ := Option.map_eq_some_iff.1 hended
  have hs := hasCounted_of_run hrun
  refine ⟨fun dir => ?_, ?_⟩
  · obtain ⟨hcount, hchunk, hnone⟩ := hs.copy dir
    have hmoved : PumpStats.moved ⟨s.pump.aToB.count, s.pump.bToA.count, o.finished⟩ dir =
        (s.pump.copy dir).count := by
      cases dir <;> rfl
    rw [hmoved]
    refine ⟨hcount, ⟨fun h => ?_, fun h => ?_⟩, hchunk, fun h => ?_, fun since h => ?_⟩
    · exact List.length_eq_zero_iff.1 (by omega)
    · rwa [h, List.length_nil, Nat.add_zero] at hcount
    · have hphase := hs.faithful.phase_eq _ (Pump.verdict?_of_outcome h)
      exact hnone (by simp [Copy.HasFailed, hphase]) (by simp [Copy.uncounted, hphase])
    · exact hnone (by simp [Copy.HasFailed, h]) (by simp [Copy.uncounted, h])
  · have hforth := hs.forth.count_add
    have hback := hs.back.count_add
    refine ⟨_, Option.map_eq_some_iff.2 ⟨o, ho, rfl⟩, fun counters => ?_⟩
    rw [← hforth, ← hback, Nat.add_sub_cancel, Nat.add_sub_cancel]
    rfl

/-- A pump that has returned with the end of one stream when all of a chunk was taken, in two
writes. -/
theorem counts_of_run_two_writes :
    ∃ s : PumpSession Peer Peer,
      (start 0 ((Peer.fresh.feed [7, 8, 9]).arrive .ended) (Peer.fresh.widen 2)).run none
        [.copy .aToB 0, .copy .aToB 0, .outside (Peer.fresh.arrive .ended) Peer.fresh,
          .copy .aToB 1, .copy .aToB 1, .copy .aToB 1, .release, .release] = some s ∧
        s.pump.stats? = some ⟨3, 0, .aToB⟩ ∧ (accepted s.b.history).length = 3 := by
  have hlast : ((start 0 ((Peer.fresh.feed [7, 8, 9]).arrive .ended) (Peer.fresh.widen 2)).run none
      [.copy .aToB 0, .copy .aToB 0, .outside (Peer.fresh.arrive .ended) Peer.fresh,
        .copy .aToB 1, .copy .aToB 1, .copy .aToB 1, .release, .release]).map
      (fun s => (s.pump.stats?, s.pump.outcome)) =
      some (some ⟨3, 0, .aToB⟩, some ⟨.aToB, none⟩) := by decide
  obtain ⟨s, hrun, heq⟩ := Option.map_eq_some_iff.1 hlast
  obtain ⟨hstats, houtcome⟩ := Prod.mk.inj heq
  obtain ⟨hcounts, -⟩ := counts_of_run hrun hstats
  obtain ⟨-, hiff, -, hclean, -⟩ := hcounts .aToB
  exact ⟨s, hrun, hstats, (hiff.2 (hclean houtcome)).symm⟩

/-- A peer that has taken two bytes of a chunk when its own stream ends: they are not counted, by
the pump or by a listener. -/
theorem uncounted_when_cancelled :
    ∃ moves, ∃ s : PumpSession Peer Peer,
      (start 0 (Peer.fresh.feed [7, 8, 9]) ((Peer.fresh.widen 2).arrive .ended)).run none moves =
        some s ∧ s.pump.outcome = some ⟨.bToA, none⟩ ∧ s.pump.stats? = some ⟨0, 0, .bToA⟩ ∧
        accepted s.b.history = [7, 8] ∧
        (ByteForwarding.ofPump? s.pump).map (·.record .zero) = some .zero := by
  refine ⟨[.copy .aToB 0, .copy .aToB 0, .copy .bToA 0, .release, .release], ?_⟩
  have hlast : ((start 0 (Peer.fresh.feed [7, 8, 9]) ((Peer.fresh.widen 2).arrive .ended)).run none
      [.copy .aToB 0, .copy .aToB 0, .copy .bToA 0, .release, .release]).map
      (fun s => (s.pump.outcome, s.pump.stats?, accepted s.b.history,
        (ByteForwarding.ofPump? s.pump).map (·.record .zero))) =
      some (some ⟨.bToA, none⟩, some ⟨0, 0, .bToA⟩, [7, 8], some .zero) := by decide
  obtain ⟨s, hrun, heq⟩ := Option.map_eq_some_iff.1 hlast
  exact ⟨s, hrun, by simpa using heq⟩

end PumpSession

end Gatehouse
