import Gatehouse.Listener.Binding
import Gatehouse.Proofs.Listener.Transition

/-!
# The counters of a listener

The accept loop and the tasks of the connections change the counters and take and give back
permits in separate steps. In every state that they can reach, in any order of their steps, the
counters are determined by where the loop and the tasks are: the active connections are the ones
being handled, the closed ones are those whose task has counted them, and all that were accepted
are one or the other, but for the ones whose counting is under way.

A connection that comes in is refused if all permits are in use, and is otherwise accepted. The
counters of accepted and of rejected connections tell how many came in either way.

## Main definitions

* `Admission.acceptedCount`, `Admission.activeCount`, `Admission.closedCount`: the connections
  that the counters stand for.
* `Admission.Balanced`: the counters stand for these connections, and the permits suffice.
* `Admission.IsSettled`: no connection is being counted.
* `Admission.isFull`, `Admission.arrivals`: the connections that come in during a run.

## Main results

* `Admission.balanced_of_run`: every run leaves the counters balanced.
* `Admission.counters_of_run`: what the counters show after a run.
-/

namespace Gatehouse

namespace Admission

variable {s s' : Admission}

/-! ### What the counters stand for -/

/-- Whether the connection at hand has been counted as accepted, as a number. -/
def acceptedInHand : LoopPhase → Nat
  | .waiting | .permitted => 0
  | .accepted | .activated => 1

/-- Whether the connection at hand has been counted as active, as a number. -/
def activeInHand : LoopPhase → Nat
  | .waiting | .permitted | .accepted => 0
  | .activated => 1

/-- The number of connections that have been counted as accepted. -/
def acceptedCount (s : Admission) : Nat :=
  s.connections.length + acceptedInHand s.loop

/-- The number of connections that have been counted as active and not yet taken back. -/
def activeCount (s : Admission) : Nat :=
  taskCount s.connections .handling + activeInHand s.loop

/-- The number of connections that have been counted as closed. -/
def closedCount (s : Admission) : Nat :=
  taskCount s.connections .closed + taskCount s.connections .released

/-- The counters of accepted, active and closed connections, which are words, stand for the
numbers of such connections, and no more permits are in use than there are. -/
structure Balanced (s : Admission) : Prop where
  held_le : s.held ≤ s.permits
  accepted_eq : s.stats.accepted = UInt64.ofNat s.acceptedCount
  active_eq : s.stats.active = UInt64.ofNat s.activeCount
  closed_eq : s.stats.closed = UInt64.ofNat s.closedCount

theorem balanced_start (permits : Nat) : (start permits).Balanced where
  held_le := Nat.zero_le permits
  accepted_eq := rfl
  active_eq := rfl
  closed_eq := rfl

/-- Each connection that is counted as active has a permit. -/
theorem activeCount_le_held (s : Admission) : s.activeCount ≤ s.held := by
  rw [held_eq, activeCount]
  cases s.loop <;> simp only [activeInHand, permitCount] <;> omega

/-! ### Words that count -/

/-- A word that stands for a number stands for the next one after adding one. -/
theorem add_one_eq_ofNat {w : UInt64} {n m : Nat} (hw : w = UInt64.ofNat n) (h : m = n + 1) :
    w + 1 = UInt64.ofNat m := by
  rw [hw, h, UInt64.ofNat_add]
  rfl

/-- A word that stands for a positive number stands for the one before after taking one away. -/
theorem sub_one_eq_ofNat {w : UInt64} {n m : Nat} (hw : w = UInt64.ofNat n) (h : n = m + 1) :
    w - 1 = UInt64.ofNat m := by
  rw [hw, h, UInt64.ofNat_add]
  exact UInt64.add_sub_cancel _ _

/-! ### What transitions keep -/

/-- A change that changes no counter keeps them balanced if it changes no number behind one. -/
theorem Balanced.of_eq (hs : s.Balanced) (hstats : s'.stats = s.stats)
    (hheld : s'.held ≤ s'.permits) (haccepted : s'.acceptedCount = s.acceptedCount)
    (hactive : s'.activeCount = s.activeCount) (hclosed : s'.closedCount = s.closedCount) :
    s'.Balanced where
  held_le := hheld
  accepted_eq := by rw [hstats, haccepted, hs.accepted_eq]
  active_eq := by rw [hstats, hactive, hs.active_eq]
  closed_eq := by rw [hstats, hclosed, hs.closed_eq]

/-- Replacing a connection by one whose task is in the same phase changes no count. -/
theorem Balanced.replace (hs : s.Balanced) {i : Nat} {c d : ClientConnection}
    (hc : s.connections[i]? = some c) (htask : d.task = c.task) : (s.replace i d).Balanced := by
  have hcount (phase : TaskPhase) :
      taskCount (s.replace i d).connections phase = taskCount s.connections phase :=
    taskCount_replace_other hc (by rw [htask])
  have hheld := hs.held_le
  rw [held_eq] at hheld
  refine hs.of_eq rfl ?_ ?_ ?_ ?_
  · simpa only [held_eq, hcount, loop_replace, permits_replace] using hheld
  · simp only [acceptedCount, length_connections_replace, loop_replace]
  · simp only [activeCount, hcount, loop_replace]
  · simp only [closedCount, hcount]

/-- A task takes its connection from the active ones. -/
theorem Balanced.dropActive (hs : s.Balanced) {i : Nat} {c : ClientConnection}
    (hc : s.connections[i]? = some c) (htask : c.task = .handling) :
    Balanced { s.replace i { c with task := .inactive } with stats := s.stats.dropActive } := by
  have hheld := hs.held_le
  rw [held_eq] at hheld
  generalize hd : ({ c with task := .inactive } : ClientConnection) = d
  have hto : d.task = .inactive := by rw [← hd]
  have hhandling := taskCount_replace_left hc htask (d := d) (by simp [hto])
  have hinactive := taskCount_replace_entered hc (by simp [htask]) hto
  have hclosed : taskCount (s.replace i d).connections .closed =
      taskCount s.connections .closed :=
    taskCount_replace_other hc (by simp [htask, hto])
  have hreleased : taskCount (s.replace i d).connections .released =
      taskCount s.connections .released :=
    taskCount_replace_other hc (by simp [htask, hto])
  refine ⟨?_, hs.accepted_eq.trans ?_, sub_one_eq_ofNat hs.active_eq ?_, hs.closed_eq.trans ?_⟩
  · simp only [held_eq, loop_replace, permits_replace]
    omega
  · simp only [acceptedCount, length_connections_replace, loop_replace]
  · simp only [activeCount, loop_replace]
    omega
  · simp only [closedCount, hclosed, hreleased]

/-- A task counts its connection as closed. -/
theorem Balanced.addClosed (hs : s.Balanced) {i : Nat} {c : ClientConnection}
    (hc : s.connections[i]? = some c) (htask : c.task = .inactive) :
    Balanced { s.replace i { c with task := .closed } with stats := s.stats.addClosed } := by
  have hheld := hs.held_le
  rw [held_eq] at hheld
  generalize hd : ({ c with task := .closed } : ClientConnection) = d
  have hto : d.task = .closed := by rw [← hd]
  have hhandling : taskCount (s.replace i d).connections .handling =
      taskCount s.connections .handling :=
    taskCount_replace_other hc (by simp [htask, hto])
  have hinactive := taskCount_replace_left hc htask (d := d) (by simp [hto])
  have hclosed := taskCount_replace_entered hc (by simp [htask]) hto
  have hreleased : taskCount (s.replace i d).connections .released =
      taskCount s.connections .released :=
    taskCount_replace_other hc (by simp [htask, hto])
  refine ⟨?_, hs.accepted_eq.trans ?_, hs.active_eq.trans ?_, add_one_eq_ofNat hs.closed_eq ?_⟩
  · simp only [held_eq, loop_replace, permits_replace]
    omega
  · simp only [acceptedCount, length_connections_replace, loop_replace]
  · simp only [activeCount, hhandling, loop_replace]
  · simp only [closedCount]
    omega

/-- A task gives its permit back. -/
theorem Balanced.release (hs : s.Balanced) {i : Nat} {c : ClientConnection}
    (hc : s.connections[i]? = some c) (htask : c.task = .closed) :
    (s.replace i { c with task := .released }).Balanced := by
  have hheld := hs.held_le
  rw [held_eq] at hheld
  generalize hd : ({ c with task := .released } : ClientConnection) = d
  have hto : d.task = .released := by rw [← hd]
  have hhandling : taskCount (s.replace i d).connections .handling =
      taskCount s.connections .handling :=
    taskCount_replace_other hc (by simp [htask, hto])
  have hinactive : taskCount (s.replace i d).connections .inactive =
      taskCount s.connections .inactive :=
    taskCount_replace_other hc (by simp [htask, hto])
  have hclosed := taskCount_replace_left hc htask (d := d) (by simp [hto])
  have hreleased := taskCount_replace_entered hc (by simp [htask]) hto
  refine hs.of_eq rfl ?_ ?_ ?_ ?_
  · simp only [held_eq, loop_replace, permits_replace]
    omega
  · simp only [acceptedCount, length_connections_replace, loop_replace]
  · simp only [activeCount, hhandling, loop_replace]
  · simp only [closedCount]
    omega

/-- A transition keeps the counters balanced. -/
theorem Balanced.of_transition {e : AdmissionEvent} (h : s.Transition e s') (hs : s.Balanced) :
    s'.Balanced := by
  have hheld := hs.held_le
  rw [held_eq] at hheld
  cases h with
  | admitted hloop hroom =>
    rw [held_eq, hloop, permitCount] at hroom
    refine hs.of_eq rfl ?_ ?_ ?_ rfl
    · simp only [held_eq, permitCount]
      omega
    · simp only [acceptedCount, hloop, acceptedInHand]
    · simp only [activeCount, hloop, activeInHand]
  | refused hloop hfull => exact ⟨hs.held_le, hs.accepted_eq, hs.active_eq, hs.closed_eq⟩
  | countedAccepted hloop =>
    rw [hloop] at hheld
    refine ⟨?_, add_one_eq_ofNat hs.accepted_eq ?_, hs.active_eq.trans ?_, hs.closed_eq⟩
    · rwa [held_eq]
    · simp only [acceptedCount, hloop, acceptedInHand]
    · simp only [activeCount, hloop, activeInHand]
  | countedActive hloop =>
    rw [hloop] at hheld
    refine ⟨?_, hs.accepted_eq.trans ?_, add_one_eq_ofNat hs.active_eq ?_, hs.closed_eq⟩
    · rwa [held_eq]
    · simp only [acceptedCount, hloop, acceptedInHand]
    · simp only [activeCount, hloop, activeInHand]
  | spawned hloop =>
    rw [hloop] at hheld
    refine hs.of_eq rfl ?_ ?_ ?_ ?_
    · simp [held_eq, permitCount] at hheld ⊢
      omega
    · simp [acceptedCount, hloop, acceptedInHand]
    · simp [activeCount, hloop, activeInHand]
    · simp [closedCount]
  | upgraded hc htask hopen hplain => exact hs.replace hc rfl
  | closed hc hopen => exact hs.replace hc rfl
  | droppedActive hc htask hdone => exact hs.dropActive hc htask
  | countedClosed hc htask => exact hs.addClosed hc htask
  | released hc htask => exact hs.release hc htask

/-- Every run leaves the counters balanced. -/
theorem balanced_of_run {permits : Nat} {events : List AdmissionEvent}
    (hrun : (start permits).run events = some s) : s.Balanced :=
  run_induction (fun h hs => hs.of_transition h) hrun (balanced_start permits)

theorem permits_of_transition {e : AdmissionEvent} (h : s.Transition e s') :
    s'.permits = s.permits := by
  cases h <;> rfl

theorem permits_of_run {events : List AdmissionEvent} (hrun : s.run events = some s') :
    s'.permits = s.permits :=
  run_induction (P := fun t => t.permits = s.permits)
    (fun h ht => (permits_of_transition h).trans ht) hrun rfl

/-! ### Connections that come in -/

/-- Whether all permits are in use. -/
def isFull (s : Admission) : Bool := s.held == s.permits

/-- The number of connections that come in during a run while all permits are in use, or while
some are not. -/
def arrivals (full : Bool) (s : Admission) : List AdmissionEvent → Nat
  | [] => 0
  | e :: rest =>
    (if e = .incoming ∧ s.isFull = full then 1 else 0) +
      match s.step e with
      | none => 0
      | some next => next.arrivals full rest

theorem arrivals_cons {full : Bool} {e : AdmissionEvent} {rest : List AdmissionEvent}
    (h : s.Transition e s') :
    s.arrivals full (e :: rest) =
      (if e = .incoming ∧ s.isFull = full then 1 else 0) + s'.arrivals full rest := by
  rw [arrivals, step_eq_some_iff.2 h]

/-- Every connection that comes in finds all permits in use or does not. -/
theorem arrivals_add_arrivals {events : List AdmissionEvent} (hrun : s.run events = some s') :
    s.arrivals false events + s.arrivals true events = events.count .incoming := by
  induction events generalizing s with
  | nil => rfl
  | cons e rest ih =>
    obtain ⟨next, hnext, hrest⟩ := run_cons_eq_some_iff.1 hrun
    rw [arrivals_cons hnext, arrivals_cons hnext, List.count_cons, ← ih hrest]
    cases s.isFull <;> cases e <;> simp <;> omega

/-- Exactly the connections that come in while all permits are in use are counted as rejected. -/
theorem rejected_of_transition {e : AdmissionEvent} (h : s.Transition e s')
    (hs : s.held ≤ s.permits) :
    s'.stats.rejected =
      s.stats.rejected + UInt64.ofNat (if e = .incoming ∧ s.isFull = true then 1 else 0) := by
  cases h with
  | admitted hloop hroom => simp [isFull, Nat.ne_of_lt hroom]
  | refused hloop hfull => simp [isFull, Nat.le_antisymm hs hfull, ListenerStats.addRejected]
  | _ => simp [ListenerStats.addAccepted, ListenerStats.addActive, ListenerStats.dropActive,
      ListenerStats.addClosed]

theorem rejected_of_run {events : List AdmissionEvent} (hrun : s.run events = some s')
    (hs : s.Balanced) :
    s'.stats.rejected = s.stats.rejected + UInt64.ofNat (s.arrivals true events) := by
  induction events generalizing s with
  | nil =>
    cases hrun
    simp [arrivals]
  | cons e rest ih =>
    obtain ⟨next, hnext, hrest⟩ := run_cons_eq_some_iff.1 hrun
    rw [ih hrest (hs.of_transition hnext), rejected_of_transition hnext hs.held_le,
      arrivals_cons hnext, UInt64.ofNat_add, UInt64.add_assoc]

/-- Exactly the connections that come in while some permit is free get one. -/
theorem permitted_of_transition {e : AdmissionEvent} (h : s.Transition e s')
    (hs : s.held ≤ s.permits) :
    s'.connections.length + permitCount s'.loop = s.connections.length + permitCount s.loop +
      if e = .incoming ∧ s.isFull = false then 1 else 0 := by
  cases h with
  | admitted hloop hroom => simp [isFull, Nat.ne_of_lt hroom, hloop, permitCount]
  | refused hloop hfull => simp [isFull, Nat.le_antisymm hs hfull]
  | countedAccepted hloop => simp [hloop, permitCount]
  | countedActive hloop => simp [hloop, permitCount]
  | spawned hloop => simp [hloop, permitCount]
  | _ => simp

theorem permitted_of_run {events : List AdmissionEvent} (hrun : s.run events = some s')
    (hs : s.Balanced) :
    s'.connections.length + permitCount s'.loop =
      s.connections.length + permitCount s.loop + s.arrivals false events := by
  induction events generalizing s with
  | nil =>
    cases hrun
    rfl
  | cons e rest ih =>
    obtain ⟨next, hnext, hrest⟩ := run_cons_eq_some_iff.1 hrun
    rw [ih hrest (hs.of_transition hnext), permitted_of_transition hnext hs.held_le,
      arrivals_cons hnext]
    omega

/-! ### The counters after a run -/

/-- Whether no connection is between the changes of counters that it causes together: the loop
has not counted one as accepted only, and no task has taken its own from the active ones only. -/
def IsSettled (s : Admission) : Prop :=
  s.loop ≠ .accepted ∧ ∀ c ∈ s.connections, c.task ≠ .inactive

/-- When no connection is being counted, all accepted connections are active or closed. -/
theorem IsSettled.acceptedCount_eq (h : s.IsSettled) :
    s.acceptedCount = s.activeCount + s.closedCount := by
  have hinactive : taskCount s.connections .inactive = 0 :=
    List.countP_eq_zero.2 fun c hc => by simpa using h.2 c hc
  have hhand : acceptedInHand s.loop = activeInHand s.loop := by
    have hloop := h.1
    cases hphase : s.loop <;> simp_all [acceptedInHand, activeInHand]
  rw [acceptedCount, length_eq_taskCount, activeCount, closedCount, hinactive, hhand]
  omega

/-- The counter of active connections, read as a number, is the number of active connections: no
listener has so many permits that the word could wrap around. -/
theorem Balanced.toNat_active (hs : s.Balanced) (hpermits : s.permits ≤ maxPermits) :
    s.stats.active.toNat = s.activeCount := by
  have hmax : maxPermits < UInt64.size := by decide
  have hheld := activeCount_le_held s
  have hheld_le := hs.held_le
  rw [hs.active_eq]
  exact UInt64.toNat_ofNat_of_lt' (by omega)

/-- The tasks of connections make the number of active connections smaller or leave it as it
is. -/
theorem activeCount_le_of_finish {i : Nat} (h : s.Transition (.finish i) s') :
    s'.activeCount ≤ s.activeCount := by
  cases h with
  | @droppedActive _ c hc htask hdone =>
    have h := taskCount_replace_left hc htask (d := { c with task := .inactive }) (by simp)
    simp only [activeCount, loop_replace]
    omega
  | @countedClosed _ c hc htask =>
    have h : taskCount (s.replace i { c with task := .closed }).connections .handling =
        taskCount s.connections .handling :=
      taskCount_replace_other hc (by simp [htask])
    simp only [activeCount, loop_replace, h, Nat.le_refl]
  | @released _ c hc htask =>
    have h : taskCount (s.replace i { c with task := .released }).connections .handling =
        taskCount s.connections .handling :=
      taskCount_replace_other hc (by simp [htask])
    simp only [activeCount, loop_replace, h, Nat.le_refl]

/-- **The counters of a listener.** In every state that a listener with any number of permits can
reach, in any order of the steps of its accept loop and of the tasks of its connections: the
counter of active connections is the number of connections being handled, which a task never makes
greater, so it does not wrap around; this number is at most the number of permits in use, which is
at most the number of permits; when no connection is being counted, the accepted connections are
the active and the closed ones; and each connection that came in is counted once, as rejected if
it found all permits in use and as accepted otherwise, the latter when the loop gets to it. -/
theorem counters_of_run {permits : Nat} (hpermits : permits ≤ maxPermits)
    {events : List AdmissionEvent} (hrun : (start permits).run events = some s) :
    s.stats.active.toNat = s.activeCount ∧
    (∀ i s', s.step (.finish i) = some s' → s'.stats.active ≤ s.stats.active) ∧
    s.stats.active.toNat ≤ s.held ∧ s.held ≤ permits ∧
    (s.IsSettled → s.stats.accepted = s.stats.active + s.stats.closed) ∧
    s.stats.accepted + (if s.loop = .permitted then 1 else 0) =
      UInt64.ofNat ((start permits).arrivals false events) ∧
    s.stats.rejected = UInt64.ofNat ((start permits).arrivals true events) ∧
    (start permits).arrivals false events + (start permits).arrivals true events =
      events.count .incoming := by
  have hs : s.Balanced := balanced_of_run hrun
  have hsame : s.permits = permits := permits_of_run hrun
  have hactive := hs.toNat_active (hsame ▸ hpermits)
  refine ⟨hactive, ?_, hactive ▸ activeCount_le_held s, hsame ▸ hs.held_le, ?_, ?_, ?_,
    arrivals_add_arrivals hrun⟩
  · intro i s' hstep
    have h := step_eq_some_iff.1 hstep
    have hactive' := (hs.of_transition h).toNat_active
      ((permits_of_transition h).trans hsame ▸ hpermits)
    rw [UInt64.le_iff_toNat_le, hactive, hactive']
    exact activeCount_le_of_finish h
  · intro hsettled
    rw [hs.accepted_eq, hs.active_eq, hs.closed_eq, hsettled.acceptedCount_eq, UInt64.ofNat_add]
  · have hcount := permitted_of_run hrun (balanced_start permits)
    have hnone : (start permits).connections.length + permitCount (start permits).loop = 0 := rfl
    rw [hs.accepted_eq, ← Nat.zero_add (arrivals _ _ _), ← hnone, ← hcount, acceptedCount]
    cases s.loop <;> simp [acceptedInHand, permitCount]
  · have hcount := rejected_of_run hrun (balanced_start permits)
    rw [hcount]
    exact UInt64.zero_add _

/-- A listener with one permit, of two connections, counts the second as rejected. -/
theorem counters_of_run_one_permit :
    let events := [.incoming, .loop, .loop, .loop, .incoming]
    let s : Admission := ⟨1, { ListenerStats.zero with accepted := 1, active := 1, rejected := 1 },
      .waiting, [⟨.handling, true, false⟩]⟩
    1 ≤ maxPermits ∧ (start 1).run events = some s ∧
    s.stats.active.toNat = 1 ∧ s.stats.active.toNat ≤ s.held ∧ s.held ≤ 1 ∧
    s.stats.accepted = s.stats.active + s.stats.closed ∧
    s.stats.rejected = UInt64.ofNat ((start 1).arrivals true events) := by
  intro events s
  have hpermits : 1 ≤ maxPermits := by decide
  have hrun : (start 1).run events = some s := rfl
  have hsettled : s.IsSettled := ⟨by decide, by decide⟩
  obtain ⟨hactive, -, hheld, hle, hsum, -, hrejected, -⟩ := counters_of_run hpermits hrun
  exact ⟨hpermits, hrun, hactive, hheld, hle, hsum hsettled, hrejected⟩

end Admission

end Gatehouse
