import Gatehouse.Proofs.Listener.Accounting

/-!
# Connections that outlive their tasks

The task of a connection is done with it when the connection is closed, and also when its client
has been upgraded: what follows is moved elsewhere. The permit and the counter of active
connections follow the task and not the connection, so they bound the open connections only as
long as no client is upgraded. An upgraded connection that its task is done with is *bridged*: it
is open, needs no permit, and is not counted.

The open connections are at most the permits in use and the bridged ones, and all of them are
counted exactly when none is bridged. A listener with a permit can have any number of bridged
connections.

## Main definitions

* `ClientConnection.isBridged`, `Admission.bridgedCount`: connections that outlive their tasks.

## Main results

* `Admission.openCount_le`: what bounds the open connections.
* `Admission.bridgedCount_eq_zero_iff`: when all open connections are counted.
* `Admission.exists_run_openCount_eq`: any number of connections can be open.
* `Admission.open_connections_of_run`: these together, for every run.
-/

namespace Gatehouse

/-- Whether a connection is open although its task is done with it. -/
def ClientConnection.isBridged (c : ClientConnection) : Bool := c.isOpen && c.task != .handling

namespace Admission

variable {s s' : Admission}

/-- The number of connections that are open although their tasks are done with them. -/
def bridgedCount (s : Admission) : Nat := s.connections.countP (·.isBridged)

/-! ### Bounds on the open connections -/

/-- An open connection is being handled or bridged. -/
theorem openCount_le_taskCount (s : Admission) :
    s.openCount ≤ taskCount s.connections .handling + s.bridgedCount := by
  unfold openCount bridgedCount taskCount
  induction s.connections with
  | nil => exact Nat.le_refl 0
  | cons c rest ih =>
    have hc : (if c.isOpen then 1 else 0) ≤
        (if c.task == .handling then 1 else 0) + if c.isBridged then 1 else 0 := by
      unfold ClientConnection.isBridged
      cases c.isOpen <;> cases c.task <;> decide
    simp only [List.countP_cons]
    omega

/-- The open connections, with the one at hand, are at most the permits in use and the bridged
connections. -/
theorem openCount_le (s : Admission) :
    s.openCount + permitCount s.loop ≤ s.held + s.bridgedCount := by
  have hopen := s.openCount_le_taskCount
  rw [held_eq]
  omega

/-- No connection is bridged exactly when every open connection is being handled. -/
theorem bridgedCount_eq_zero_iff :
    s.bridgedCount = 0 ↔ ∀ c ∈ s.connections, c.isOpen = true → c.task = .handling := by
  simp [bridgedCount, ClientConnection.isBridged]

/-! ### Only upgraded connections are bridged -/

/-- What holds of all connections still does after a replacement that keeps it. -/
theorem forall_mem_replace {P : ClientConnection → Prop} {i : Nat} {c d : ClientConnection}
    (hs : ∀ x ∈ s.connections, P x) (hc : s.connections[i]? = some c) (hd : P c → P d) :
    ∀ x ∈ (s.replace i d).connections, P x := by
  intro x hx
  rcases List.mem_or_eq_of_mem_set hx with hold | rfl
  · exact hs x hold
  · exact hd (hs c (List.mem_of_getElem? hc))

/-- What holds of all connections and of one that is new holds of all with the new one. -/
theorem forall_mem_append_singleton {P : ClientConnection → Prop} {c : ClientConnection}
    (hs : ∀ x ∈ s.connections, P x) (hc : P c) : ∀ x ∈ s.connections ++ [c], P x := by
  intro x hx
  rcases List.mem_append.1 hx with hold | hnew
  · exact hs x hold
  · rwa [List.mem_singleton.1 hnew]

/-- Only upgraded connections get bridged: otherwise a task is done with a connection when it is
closed. -/
theorem isUpgraded_of_transition {e : AdmissionEvent} (h : s.Transition e s')
    (hs : ∀ c ∈ s.connections, c.isBridged = true → c.isUpgraded = true) :
    ∀ c ∈ s'.connections, c.isBridged = true → c.isUpgraded = true := by
  cases h with
  | spawned hloop =>
    exact forall_mem_append_singleton hs (by simp [ClientConnection.isBridged])
  | upgraded hc htask hopen hplain => exact forall_mem_replace hs hc fun _ _ => rfl
  | closed hc hopen =>
    exact forall_mem_replace hs hc (by simp [ClientConnection.isBridged])
  | droppedActive hc htask hdone =>
    refine forall_mem_replace hs hc fun _ hbridged => hdone ?_
    simpa [ClientConnection.isBridged] using hbridged
  | countedClosed hc htask =>
    refine forall_mem_replace hs hc fun hold hbridged => hold ?_
    simpa [ClientConnection.isBridged, htask] using hbridged
  | released hc htask =>
    refine forall_mem_replace hs hc fun hold hbridged => hold ?_
    simpa [ClientConnection.isBridged, htask] using hbridged
  | _ => exact hs

theorem isUpgraded_of_run {permits : Nat} {events : List AdmissionEvent}
    (hrun : (start permits).run events = some s) :
    ∀ c ∈ s.connections, c.isBridged = true → c.isUpgraded = true :=
  run_induction (P := fun t => ∀ c ∈ t.connections, c.isBridged = true → c.isUpgraded = true)
    isUpgraded_of_transition hrun (fun _ hc => absurd hc List.not_mem_nil)

/-- As long as no client is upgraded, no connection is an upgraded one. -/
theorem not_isUpgraded_of_transition {e : AdmissionEvent} (h : s.Transition e s')
    (he : ∀ i, e ≠ .upgrade i) (hs : ∀ c ∈ s.connections, c.isUpgraded = false) :
    ∀ c ∈ s'.connections, c.isUpgraded = false := by
  cases h with
  | spawned hloop => exact forall_mem_append_singleton hs rfl
  | upgraded hc htask hopen hplain => exact absurd rfl (he _)
  | closed hc hopen => exact forall_mem_replace hs hc id
  | droppedActive hc htask hdone => exact forall_mem_replace hs hc id
  | countedClosed hc htask => exact forall_mem_replace hs hc id
  | released hc htask => exact forall_mem_replace hs hc id
  | _ => exact hs

theorem not_isUpgraded_of_run {events : List AdmissionEvent} (hrun : s.run events = some s')
    (hevents : ∀ i, AdmissionEvent.upgrade i ∉ events)
    (hs : ∀ c ∈ s.connections, c.isUpgraded = false) :
    ∀ c ∈ s'.connections, c.isUpgraded = false := by
  induction events generalizing s with
  | nil =>
    cases hrun
    exact hs
  | cons e rest ih =>
    obtain ⟨next, hnext, hrest⟩ := run_cons_eq_some_iff.1 hrun
    have he : ∀ i, e ≠ .upgrade i := fun i he => hevents i (he ▸ List.mem_cons_self)
    exact ih hrest (fun i hi => hevents i (List.mem_cons_of_mem e hi))
      (not_isUpgraded_of_transition hnext he hs)

/-! ### Any number of connections can be bridged -/

/-- A connection comes in, is handled, and its client is upgraded; its task comes to its end. The
connection is the one with the given number. -/
def bridgingEvents (i : Nat) : List AdmissionEvent :=
  [.incoming, .loop, .loop, .loop, .upgrade i, .finish i, .finish i, .finish i]

/-- A listener with a free permit can take one more connection that ends up bridged, and is then
as it was before, but for that connection and the counters. -/
theorem exists_run_bridged (hloop : s.loop = .waiting) (hroom : s.held < s.permits) :
    ∃ s', s.run (bridgingEvents s.connections.length) = some s' ∧ s'.permits = s.permits ∧
      s'.loop = .waiting ∧ s'.stats.active = s.stats.active ∧
      s'.connections = s.connections ++ [⟨.released, true, true⟩] := by
  simp [bridgingEvents, run_cons, step, stepLoop, stepTask, replace, hloop, hroom,
    ListenerStats.addAccepted, ListenerStats.addActive, ListenerStats.dropActive,
    ListenerStats.addClosed]

/-- A listener with a permit can have any number of bridged connections, with no permit in use and
no connection counted as active. -/
theorem exists_run_openCount_eq {permits : Nat} (hpermits : 0 < permits) (n : Nat) :
    ∃ events s, (start permits).run events = some s ∧ s.openCount = n ∧ s.bridgedCount = n ∧
      s.held = 0 ∧ s.stats.active = 0 := by
  have hreach : ∃ events s, (start permits).run events = some s ∧ s.permits = permits ∧
      s.loop = .waiting ∧ s.stats.active = 0 ∧
      s.connections = List.replicate n ⟨.released, true, true⟩ := by
    induction n with
    | zero => exact ⟨[], start permits, rfl, rfl, rfl, rfl, rfl⟩
    | succ n ih =>
      obtain ⟨events, s, hrun, hsame, hloop, hactive, hconnections⟩ := ih
      have hheld : s.held = 0 := by simp [held, hloop, hconnections]
      obtain ⟨s', hrun', hsame', hloop', hactive', hconnections'⟩ :=
        exists_run_bridged hloop (by omega)
      refine ⟨events ++ bridgingEvents s.connections.length, s', ?_, hsame'.trans hsame, hloop',
        hactive'.trans hactive, ?_⟩
      · rw [run_append, hrun]
        exact hrun'
      · rw [hconnections', hconnections, ← List.replicate_succ']
  obtain ⟨events, s, hrun, -, hloop, hactive, hconnections⟩ := hreach
  refine ⟨events, s, hrun, ?_, ?_, ?_, hactive⟩
  · simp [openCount, hconnections, List.countP_replicate]
  · simp [bridgedCount, ClientConnection.isBridged, hconnections, List.countP_replicate]
  · simp [held, hloop, hconnections]

/-- Two connections of a listener with one permit are open at once, and one of them is not counted:
the first was upgraded, which gave its permit to the second. -/
theorem openCount_exceeds_permits :
    ∃ s, (start 1).run (bridgingEvents 0 ++ [.incoming, .loop, .loop, .loop]) = some s ∧
      s.openCount = 2 ∧ s.stats.active = 1 ∧ s.stats.rejected = 0 :=
  ⟨_, rfl, rfl, rfl, rfl⟩

/-- **The open connections of a listener.** In every state that a listener can reach: the counter
of active connections is the number of connections being handled; the open connections, with the
one at hand, are at most the permits in use and the bridged connections; all open connections are
being handled, and so counted, exactly when none is bridged; only upgraded connections are bridged,
so none is as long as no client is upgraded. On the other hand any number of connections can be
open and bridged, none of them with a permit or counted. -/
theorem open_connections_of_run {permits : Nat} (hpos : 0 < permits)
    (hmax : permits ≤ maxPermits) :
    (∀ {events : List AdmissionEvent} {s : Admission}, (start permits).run events = some s →
      s.stats.active.toNat = taskCount s.connections .handling + activeInHand s.loop ∧
      s.openCount + permitCount s.loop ≤ s.held + s.bridgedCount ∧ s.held ≤ permits ∧
      (s.bridgedCount = 0 ↔ ∀ c ∈ s.connections, c.isOpen = true → c.task = .handling) ∧
      (∀ c ∈ s.connections, c.isBridged = true → c.isUpgraded = true) ∧
      ((∀ i, .upgrade i ∉ events) → s.bridgedCount = 0)) ∧
    ∀ n, ∃ events s, (start permits).run events = some s ∧ s.openCount = n ∧
      s.bridgedCount = n ∧ s.held = 0 ∧ s.stats.active = 0 := by
  refine ⟨?_, exists_run_openCount_eq hpos⟩
  intro events s hrun
  have hs : s.Balanced := balanced_of_run hrun
  have hsame : s.permits = permits := permits_of_run hrun
  have hupgraded := isUpgraded_of_run hrun
  refine ⟨hs.toNat_active (hsame ▸ hmax), s.openCount_le, hsame ▸ hs.held_le,
    bridgedCount_eq_zero_iff, hupgraded, ?_⟩
  intro hevents
  have hplain := not_isUpgraded_of_run hrun hevents fun _ hc => absurd hc List.not_mem_nil
  refine List.countP_eq_zero.2 fun c hc hbridged => ?_
  have hcontra := (hplain c hc).symm.trans (hupgraded c hc hbridged)
  cases hcontra

/-- With two permits, three clients can be upgraded and open while nothing is counted. -/
theorem open_connections_of_run_two_permits :
    0 < 2 ∧ 2 ≤ maxPermits ∧ ∃ events s, (start 2).run events = some s ∧ s.openCount = 3 ∧
      s.bridgedCount = 3 ∧ s.held = 0 ∧ s.stats.active = 0 := by
  have hpos : 0 < 2 := by decide
  have hmax : 2 ≤ maxPermits := by decide
  exact ⟨hpos, hmax, (open_connections_of_run hpos hmax).2 3⟩

end Admission

end Gatehouse
