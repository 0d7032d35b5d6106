import Gatehouse.Proofs.Pump.Session
import Gatehouse.Proofs.Pump.Tunnel

/-!
# Polling is a run

What is proved about runs, in which pumps take their steps in any order, is about streams that
record what is done to them. A pump that is polled takes its steps in one order, and its streams
record nothing. This file shows that polling is one of the runs: the steps of a poll make a list of
moves, and recording changes nothing in what a pump does.

## Main definitions

* `Respects`: a map between the states of streams that commutes with all operations.
* `PumpStep`, `Pump.steps`: the steps of a pump, and a pump taking steps in a given order.
* `RelayedConnection.plain`: a connection without what its streams have recorded.

## Main results

* `Pump.poll_map`: polling commutes with maps of the streams.
* `PumpSession.exists_run_poll`: a poll of a pump is a run.
* `RelayedConnection.exists_run_settle`: settling a connection through a tunnel is a run.
-/

namespace Gatehouse

/-! ### Maps of streams -/

/-- A map between the states of two streams that commutes with all operations. -/
structure Respects {σ ρ : Type} [ByteStream σ] [ByteStream ρ] (f : σ → ρ) : Prop where
  read : ∀ room s, ByteStream.read room (f s) = (ByteStream.read room s).map id f
  write : ∀ data s, ByteStream.write data (f s) = (ByteStream.write data s).map id f
  flush : ∀ s, ByteStream.flush (f s) = (ByteStream.flush s).map id f
  shutDown : ∀ s, ByteStream.shutDown (f s) = (ByteStream.shutDown s).map id f
  close : ∀ s, ByteStream.close (f s) = f (ByteStream.close s)
  readsLeft : ∀ s, ByteStream.readsLeft (f s) = ByteStream.readsLeft s

theorem respects_id {σ : Type} [ByteStream σ] : Respects (id : σ → σ) :=
  ⟨fun _ _ => rfl, fun _ _ => rfl, fun _ => rfl, fun _ => rfl, fun _ => rfl, fun _ => rfl⟩

theorem Respects.shutDown? {σ ρ : Type} [ByteStream σ] [ByteStream ρ] {f : σ → ρ}
    (hf : Respects f) (s : σ) :
    ByteStream.shutDown? (f s) = (ByteStream.shutDown? s).map f := by
  simp only [ByteStream.shutDown?, hf.shutDown]
  rcases ByteStream.shutDown s with ⟨_ | _ | cause, s⟩ <;> rfl

/-- A stream that records does what the stream inside does. -/
theorem respects_stream {σ : Type} [ByteStream σ] :
    Respects (Recorded.stream : Recorded σ → σ) where
  read room r := by
    simp only [ByteStream.read]
    rcases ByteStream.read room r.stream with ⟨_ | data | cause, s⟩ <;> rfl
  write data r := by
    simp only [ByteStream.write]
    rcases ByteStream.write data r.stream with ⟨_ | n | cause, s⟩ <;> rfl
  flush r := by
    simp only [ByteStream.flush]
    rcases ByteStream.flush r.stream with ⟨_ | _ | cause, s⟩ <;> rfl
  shutDown r := by
    simp only [ByteStream.shutDown]
    rcases ByteStream.shutDown r.stream with ⟨_ | _ | cause, s⟩ <;> rfl
  close _ := rfl
  readsLeft _ := rfl

section

variable {α β α' β' : Type} [ByteStream α] [ByteStream β] [ByteStream α'] [ByteStream β']
  {f : α → α'} {g : β → β'} {limit : Option Nat} {now : Nat}

theorem Copy.step_map (hf : Respects f) (hg : Respects g) (c : Copy) (a : α) (b : β) :
    c.step limit now (f a) (g b) = (c.step limit now a b).map (Prod.map id (Prod.map f g)) := by
  cases hphase : c.phase with
  | ended failure => simp [step, hphase]
  | reading since =>
    simp only [step, hphase, hf.read]
    rcases ByteStream.read bufferSize a with ⟨_ | data | cause, s⟩
    · by_cases hidle : isIdle limit since now <;> simp [hidle]
    · cases data <;> rfl
    · rfl
  | writing rest size =>
    simp only [step, hphase, hg.write]
    rcases ByteStream.write rest b with ⟨_ | n | cause, s⟩
    · rfl
    · cases n <;> rfl
    · rfl
  | flushing size =>
    simp only [step, hphase, hg.flush]
    rcases ByteStream.flush b with ⟨_ | _ | cause, s⟩ <;> rfl

namespace Pump

/-- A release commutes with maps of the streams. -/
theorem release_map (hf : Respects f) (hg : Respects g) (p : Pump) (a : α) (b : β) :
    p.release (f a) (g b) = (p.release a b).map (Prod.map id (Prod.map f g)) := by
  unfold release
  cases p.stage with
  | copying | returned => rfl
  | releasingB =>
    simp only [hg.shutDown?, Option.map_map]
    rfl
  | releasingA =>
    simp only [hf.shutDown?, hg.close, Option.map_map]
    exact congrArg (Option.map · _) (funext fun a => by simp [hf.close])

/-- A step of a pump commutes with maps of its streams. -/
theorem step_map (hf : Respects f) (hg : Respects g) (dir : Direction) (p : Pump) (a : α) (b : β) :
    p.step limit now dir (f a) (g b) =
      (p.step limit now dir a b).map (Prod.map id (Prod.map f g)) := by
  unfold step
  split_ifs
  · rfl
  · cases dir with
    | aToB =>
      simp only [Copy.step_map hf hg, Option.map_map]
      rfl
    | bToA =>
      simp only [Copy.step_map hg hf, Option.map_map]
      rfl

theorem advance_map (hf : Respects f) (hg : Respects g) (dir : Direction) (most : Nat) (p : Pump)
    (a : α) (b : β) :
    p.advance limit now dir most (f a) (g b) =
      (p.advance limit now dir most a b).map id (Prod.map f g) := by
  induction most generalizing p a b with
  | zero => rfl
  | succ most ih =>
    simp only [advance, step_map hf hg]
    cases p.step limit now dir a b with
    | none => rfl
    | some next => exact ih next.1 next.2.1 next.2.2

theorem releases_map (hf : Respects f) (hg : Respects g) (most : Nat) (p : Pump) (a : α) (b : β) :
    p.releases most (f a) (g b) = (p.releases most a b).map id (Prod.map f g) := by
  induction most generalizing p a b with
  | zero => rfl
  | succ most ih =>
    simp only [releases, release_map hf hg]
    cases p.release a b with
    | none => rfl
    | some next => exact ih next.1 next.2.1 next.2.2

/-- Polling commutes with maps of the streams. -/
theorem poll_map (hf : Respects f) (hg : Respects g) (p : Pump) (a : α) (b : β) :
    p.poll limit now (f a) (g b) = (p.poll limit now a b).map id (Prod.map f g) := by
  simp only [poll, stepsLeft, hf.readsLeft, advance_map hf hg, Prod.map_fst, Prod.map_snd, id_eq,
    hg.readsLeft, releases_map hf hg]

end Pump

end

/-! ### Polls as steps -/

/-- A step of a pump. -/
inductive PumpStep where
  /-- One direction takes a step. -/
  | copy (dir : Direction)
  /-- A stream is shut down. -/
  | release

section

variable {α β : Type} [ByteStream α] [ByteStream β]

/-- A pump and its streams after a step, if it can be taken. -/
def Pump.take (limit : Option Nat) (now : Nat) (x : Pump × α × β) :
    PumpStep → Option (Pump × α × β)
  | .copy dir => x.1.step limit now dir x.2.1 x.2.2
  | .release => x.1.release x.2.1 x.2.2

/-- A pump and its streams after steps in the given order, if all of them can be taken. -/
def Pump.steps (limit : Option Nat) (now : Nat) (steps : List PumpStep) (x : Pump × α × β) :
    Option (Pump × α × β) :=
  steps.foldlM (take limit now) x

namespace Pump

variable (limit : Option Nat) (now : Nat) (p : Pump) (a : α) (b : β)

theorem exists_steps_advance (dir : Direction) (most : Nat) :
    ∃ path, steps limit now path (p, a, b) = some (p.advance limit now dir most a b) := by
  induction most generalizing p a b with
  | zero => exact ⟨[], rfl⟩
  | succ most ih =>
    simp only [advance]
    cases hstep : p.step limit now dir a b with
    | none => exact ⟨[], rfl⟩
    | some next =>
      obtain ⟨path, hpath⟩ := ih next.1 next.2.1 next.2.2
      exact ⟨.copy dir :: path, foldlM_cons_eq_some_iff.2 ⟨next, hstep, hpath⟩⟩

theorem exists_steps_releases (most : Nat) :
    ∃ path, steps limit now path (p, a, b) = some (p.releases most a b) := by
  induction most generalizing p a b with
  | zero => exact ⟨[], rfl⟩
  | succ most ih =>
    simp only [releases]
    cases hrelease : p.release a b with
    | none => exact ⟨[], rfl⟩
    | some next =>
      obtain ⟨path, hpath⟩ := ih next.1 next.2.1 next.2.2
      exact ⟨.release :: path, foldlM_cons_eq_some_iff.2 ⟨next, hrelease, hpath⟩⟩

variable {limit now} in
theorem steps_append {x y z : Pump × α × β} {path path' : List PumpStep}
    (h : steps limit now path x = some y) (h' : steps limit now path' y = some z) :
    steps limit now (path ++ path') x = some z := by
  rw [steps, List.foldlM_append]
  exact Option.bind_eq_some_iff.2 ⟨y, h, h'⟩

/-- A poll takes steps one after the other. -/
theorem exists_steps_poll :
    ∃ path, steps limit now path (p, a, b) = some (p.poll limit now a b) := by
  obtain ⟨⟨q, a', b'⟩, hforth⟩ : ∃ x, p.advance limit now .aToB (stepsLeft a) a b = x := ⟨_, rfl⟩
  obtain ⟨⟨q', a'', b''⟩, hback⟩ : ∃ x, q.advance limit now .bToA (stepsLeft b') a' b' = x :=
    ⟨_, rfl⟩
  obtain ⟨first, hfirst⟩ := exists_steps_advance limit now p a b .aToB (stepsLeft a)
  obtain ⟨second, hsecond⟩ := exists_steps_advance limit now q a' b' .bToA (stepsLeft b')
  obtain ⟨rest, hrest⟩ := exists_steps_releases limit now q' a'' b'' 2
  rw [hforth] at hfirst
  rw [hback] at hsecond
  refine ⟨first ++ (second ++ rest), steps_append hfirst (steps_append hsecond ?_)⟩
  simp only [poll, hforth, hback]
  exact hrest

end Pump

/-! ### Polls as runs -/

namespace PumpSession

/-- A step of a pump as a move of its session. -/
def moveOf {α β : Type} (now : Nat) : PumpStep → PumpMove α β
  | .copy dir => .copy dir now
  | .release => .release

/-- The steps of a pump are the moves of a session. -/
theorem run_of_steps {limit : Option Nat} {now : Nat} {path : List PumpStep}
    {s : PumpSession α β} {x : Pump × Recorded α × Recorded β}
    (h : Pump.steps limit now path (s.pump, s.a, s.b) = some x) :
    s.run limit (path.map (moveOf now)) = some ⟨x.1, x.2.1, x.2.2⟩ := by
  induction path generalizing s with
  | nil =>
    cases h
    rfl
  | cons m path ih =>
    obtain ⟨⟨p, a, b⟩, hnext, hrest⟩ := foldlM_cons_eq_some_iff.1 h
    refine foldlM_cons_eq_some_iff.2 ⟨⟨p, a, b⟩, ?_, ih hrest⟩
    cases m <;> exact Option.map_eq_some_iff.2 ⟨_, hnext, rfl⟩

/-- A poll of a pump is a run of a session with recorded streams. -/
theorem exists_run_poll (limit : Option Nat) (now : Nat) (s : PumpSession α β) :
    ∃ moves s', s.run limit moves = some s' ∧
      (s'.pump, s'.a.stream, s'.b.stream) = s.pump.poll limit now s.a.stream s.b.stream := by
  obtain ⟨path, hpath⟩ := Pump.exists_steps_poll limit now s.pump s.a s.b
  refine ⟨path.map (moveOf now), _, run_of_steps hpath, ?_⟩
  rw [Pump.poll_map respects_stream respects_stream]
  rfl

end PumpSession

end

namespace RelayedConnection

variable {α τ : Type}

/-- A connection without what its streams have recorded. -/
def plain (c : RelayedConnection (Recorded α) (Recorded τ)) : RelayedConnection α τ :=
  ⟨c.client.stream, c.outer, c.pipe, c.relay, c.tunnel.stream⟩

variable [ByteStream α] [ByteStream τ] {limit : Option Nat} {now : Nat}
  {c : RelayedConnection (Recorded α) (Recorded τ)}

/-- A step of one of the pumps as a move of the connection. -/
def moveOf {α τ : Type} (part : RelayPart) (now : Nat) : PumpStep → RelayMove α τ
  | .copy dir => .copy part dir now
  | .release => .release part

theorem run_of_outer_steps {path : List PumpStep} {x : Pump × Recorded α × NearEnd}
    (h : Pump.steps limit now path (c.outer, c.client, NearEnd.mk c.pipe) = some x) :
    c.run limit (path.map (moveOf .outer now)) =
      some { c with outer := x.1, client := x.2.1, pipe := x.2.2.pipe } := by
  induction path generalizing c with
  | nil =>
    cases h
    rfl
  | cons m path ih =>
    obtain ⟨⟨p, a, b⟩, hnext, hrest⟩ := foldlM_cons_eq_some_iff.1 h
    refine foldlM_cons_eq_some_iff.2 ⟨{ c with outer := p, client := a, pipe := b.pipe }, ?_,
      ih hrest⟩
    cases m <;> exact Option.map_eq_some_iff.2 ⟨_, hnext, rfl⟩

theorem run_of_relay_steps {path : List PumpStep} {x : Pump × FarEnd × Recorded τ}
    (h : Pump.steps limit now path (c.relay, FarEnd.mk c.pipe, c.tunnel) = some x) :
    c.run limit (path.map (moveOf .relay now)) =
      some { c with relay := x.1, pipe := x.2.1.pipe, tunnel := x.2.2 } := by
  induction path generalizing c with
  | nil =>
    cases h
    rfl
  | cons m path ih =>
    obtain ⟨⟨p, a, b⟩, hnext, hrest⟩ := foldlM_cons_eq_some_iff.1 h
    refine foldlM_cons_eq_some_iff.2 ⟨{ c with relay := p, pipe := a.pipe, tunnel := b }, ?_,
      ih hrest⟩
    cases m <;> exact Option.map_eq_some_iff.2 ⟨_, hnext, rfl⟩

/-- A round polls the first pump and then the relay. -/
theorem exists_run_round (limit : Option Nat) (now : Nat)
    (c : RelayedConnection (Recorded α) (Recorded τ)) :
    ∃ moves, c.run limit moves = some (c.round limit now) := by
  obtain ⟨first, hfirst⟩ :=
    Pump.exists_steps_poll limit now c.outer c.client (NearEnd.mk c.pipe)
  have houter := run_of_outer_steps hfirst
  obtain ⟨rest, hrest⟩ := Pump.exists_steps_poll limit now c.relay
    (FarEnd.mk (c.outer.poll limit now c.client (NearEnd.mk c.pipe)).2.2.pipe) c.tunnel
  refine ⟨first.map (moveOf .outer now) ++ rest.map (moveOf .relay now), ?_⟩
  rw [run, List.foldlM_append]
  exact Option.bind_eq_some_iff.2 ⟨_, houter, run_of_relay_steps hrest⟩

/-- A round does with recorded streams what it does with the streams inside. -/
theorem round_plain (limit : Option Nat) (now : Nat)
    (c : RelayedConnection (Recorded α) (Recorded τ)) :
    c.plain.round limit now = (c.round limit now).plain := by
  have houter : c.outer.poll limit now c.client.stream (NearEnd.mk c.pipe) =
      (c.outer.poll limit now c.client (NearEnd.mk c.pipe)).map id (Prod.map Recorded.stream id) :=
    Pump.poll_map respects_stream respects_id c.outer c.client (NearEnd.mk c.pipe)
  have hrelay : ∀ far : FarEnd, c.relay.poll limit now far c.tunnel.stream =
      (c.relay.poll limit now far c.tunnel).map id (Prod.map id Recorded.stream) :=
    fun far => Pump.poll_map respects_id respects_stream c.relay far c.tunnel
  simp only [round, plain, houter, hrelay, Prod.map_fst, Prod.map_snd, id_eq]

/-- Rounds as long as they change anything are a run. -/
theorem exists_run_rounds [DecidableEq α] [DecidableEq τ] (limit : Option Nat) (now most : Nat)
    (c : RelayedConnection (Recorded α) (Recorded τ)) :
    ∃ moves c', c.run limit moves = some c' ∧ c'.plain = c.plain.rounds limit now most := by
  induction most generalizing c with
  | zero => exact ⟨[], c, rfl, rfl⟩
  | succ most ih =>
    simp only [rounds]
    split_ifs with hsame
    · exact ⟨[], c, rfl, rfl⟩
    · obtain ⟨first, hfirst⟩ := exists_run_round limit now c
      obtain ⟨rest, c', hrest, hplain⟩ := ih (c.round limit now)
      refine ⟨first ++ rest, c', ?_, ?_⟩
      · rw [run, List.foldlM_append]
        exact Option.bind_eq_some_iff.2 ⟨_, hfirst, hrest⟩
      · rw [hplain, round_plain]

/-- Settling a connection is a run of it with recorded streams. -/
theorem exists_run_settle [DecidableEq α] [DecidableEq τ] (limit : Option Nat) (now : Nat)
    (c : RelayedConnection (Recorded α) (Recorded τ)) :
    ∃ moves c', c.run limit moves = some c' ∧ c'.plain = c.plain.settle limit now :=
  exists_run_rounds limit now _ c

end RelayedConnection

end Gatehouse
