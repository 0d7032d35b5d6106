import Gatehouse.Proofs.Run
import Gatehouse.Listener.Admission
import Mathlib.Data.List.Basic

/-!
# What an event does to a listener

An event that can happen at a listener has one of ten effects, one for each line of the accept
loop, one for each line of the task of a connection, and one for each thing that a connection may
do by itself. This file lists the effects as a relation between states, shows that
`Admission.step` is this relation, and counts the tasks of a listener phase by phase.

## Main definitions

* `Admission.Transition`: the effects of the events.
* `Admission.taskCount`: the number of connections whose task is in a phase.

## Main results

* `Admission.step_eq_some_iff`: a step is a transition.
* `Admission.held_eq`: the permits in use, by the phases of the tasks.
* `Admission.taskCount_replace`: what replacing a connection does to the counts.
* `Admission.run_induction`: what every transition keeps is kept by a run.
-/

namespace Gatehouse

/-- Replacing an element of a list takes one away from what it was counted with, and adds one to
what the new one is counted with. -/
theorem countP_set_add {α : Type} (p : α → Bool) {l : List α} {i : Nat} {a : α}
    (ha : l[i]? = some a) (b : α) :
    (l.set i b).countP p + (if p a then 1 else 0) = l.countP p + (if p b then 1 else 0) := by
  obtain ⟨hi, rfl⟩ := List.getElem?_eq_some_iff.1 ha
  have hcounted : (if p l[i] then 1 else 0) ≤ l.countP p := List.boole_getElem_le_countP hi
  rw [List.countP_set hi]
  omega

namespace Admission

variable {s s' : Admission}

/-! ### The effects of the events -/

/-- The effect of an event on a listener. -/
inductive Transition (s : Admission) : AdmissionEvent → Admission → Prop
  | admitted (hloop : s.loop = .waiting) (hroom : s.held < s.permits) :
      Transition s .incoming { s with loop := .permitted }
  | refused (hloop : s.loop = .waiting) (hfull : s.permits ≤ s.held) :
      Transition s .incoming { s with stats := s.stats.addRejected }
  | countedAccepted (hloop : s.loop = .permitted) :
      Transition s .loop { s with loop := .accepted, stats := s.stats.addAccepted }
  | countedActive (hloop : s.loop = .accepted) :
      Transition s .loop { s with loop := .activated, stats := s.stats.addActive }
  | spawned (hloop : s.loop = .activated) :
      Transition s .loop
        { s with loop := .waiting, connections := s.connections ++ [⟨.handling, true, false⟩] }
  | upgraded {i : Nat} {c : ClientConnection} (hc : s.connections[i]? = some c)
      (htask : c.task = .handling) (hopen : c.isOpen = true) (hplain : c.isUpgraded = false) :
      Transition s (.upgrade i) (s.replace i { c with isUpgraded := true })
  | closed {i : Nat} {c : ClientConnection} (hc : s.connections[i]? = some c)
      (hopen : c.isOpen = true) :
      Transition s (.close i) (s.replace i { c with isOpen := false })
  | droppedActive {i : Nat} {c : ClientConnection} (hc : s.connections[i]? = some c)
      (htask : c.task = .handling) (hdone : c.isOpen = true → c.isUpgraded = true) :
      Transition s (.finish i)
        { s.replace i { c with task := .inactive } with stats := s.stats.dropActive }
  | countedClosed {i : Nat} {c : ClientConnection} (hc : s.connections[i]? = some c)
      (htask : c.task = .inactive) :
      Transition s (.finish i)
        { s.replace i { c with task := .closed } with stats := s.stats.addClosed }
  | released {i : Nat} {c : ClientConnection} (hc : s.connections[i]? = some c)
      (htask : c.task = .closed) :
      Transition s (.finish i) (s.replace i { c with task := .released })

/-- The steps of the accept loop with a connection at hand. -/
theorem transition_of_stepLoop (h : s.stepLoop = some s') : s.Transition .loop s' := by
  unfold stepLoop at h
  split at h
  next => cases h
  next hloop => cases h; exact .countedAccepted hloop
  next hloop => cases h; exact .countedActive hloop
  next hloop => cases h; exact .spawned hloop

/-- The steps of the task of a connection. -/
theorem transition_of_stepTask {i : Nat} {c : ClientConnection}
    (hc : s.connections[i]? = some c) (h : s.stepTask i c = some s') :
    s.Transition (.finish i) s' := by
  unfold stepTask at h
  split at h
  next htask =>
    split_ifs at h with hbusy
    cases h
    exact .droppedActive hc htask fun hopen => by simpa [hopen] using hbusy
  next htask => cases h; exact .countedClosed hc htask
  next htask => cases h; exact .released hc htask
  next => cases h

/-- An event happens with exactly the effects of `Transition`. -/
theorem step_eq_some_iff {e : AdmissionEvent} : s.step e = some s' ↔ s.Transition e s' := by
  constructor
  · intro h
    cases e with
    | incoming =>
      simp only [step] at h
      split_ifs at h with hloop hroom <;> cases h
      · exact .admitted (not_not.mp hloop) hroom
      · exact .refused (not_not.mp hloop) (Nat.le_of_not_lt hroom)
    | loop => exact transition_of_stepLoop h
    | upgrade i =>
      simp only [step] at h
      split at h
      next c hc =>
        split_ifs at h with hplain
        cases h
        exact .upgraded hc hplain.1 hplain.2.1 (by simpa using hplain.2.2)
      next => cases h
    | close i =>
      simp only [step] at h
      split at h
      next c hc =>
        split_ifs at h with hopen
        cases h
        exact .closed hc hopen
      next => cases h
    | finish i =>
      simp only [step] at h
      split at h
      next c hc => exact transition_of_stepTask hc h
      next => cases h
  · intro h
    cases h with
    | admitted hloop hroom => simp [step, hloop, hroom]
    | refused hloop hfull => simp [step, hloop, Nat.not_lt.mpr hfull]
    | countedAccepted hloop => simp [step, stepLoop, hloop]
    | countedActive hloop => simp [step, stepLoop, hloop]
    | spawned hloop => simp [step, stepLoop, hloop]
    | upgraded hc htask hopen hplain => simp [step, hc, htask, hopen, hplain]
    | closed hc hopen => simp [step, hc, hopen]
    | droppedActive hc htask hdone =>
      simp only [step, hc, stepTask, htask]
      exact if_neg fun hbusy => hbusy.2 (hdone hbusy.1)
    | countedClosed hc htask => simp [step, hc, stepTask, htask]
    | released hc htask => simp [step, hc, stepTask, htask]

/-! ### Runs -/

@[simp] theorem run_nil : s.run [] = some s := rfl

theorem run_cons {e : AdmissionEvent} {events : List AdmissionEvent} :
    s.run (e :: events) = (s.step e).bind fun next => next.run events :=
  List.foldlM_cons

theorem run_append {first rest : List AdmissionEvent} :
    s.run (first ++ rest) = (s.run first).bind fun next => next.run rest :=
  List.foldlM_append

/-- A run that can happen begins with a transition. -/
theorem run_cons_eq_some_iff {e : AdmissionEvent} {events : List AdmissionEvent} :
    s.run (e :: events) = some s' ↔ ∃ next, s.Transition e next ∧ next.run events = some s' := by
  simp only [run_cons, Option.bind_eq_some_iff, step_eq_some_iff]

/-- What every transition keeps is kept by every run. -/
theorem run_induction {P : Admission → Prop}
    (hstep : ∀ {s e s'}, Transition s e s' → P s → P s') {events : List AdmissionEvent}
    (hrun : s.run events = some s') (hs : P s) : P s' :=
  foldlM_induction (fun h => hstep (step_eq_some_iff.1 h)) hrun hs

/-! ### Counting tasks by their phases -/

/-- The number of connections whose task is in a phase. -/
def taskCount (connections : List ClientConnection) (phase : TaskPhase) : Nat :=
  connections.countP (·.task == phase)

/-- Every connection has a task in one of the four phases. -/
theorem length_eq_taskCount (connections : List ClientConnection) :
    connections.length = taskCount connections .handling + taskCount connections .inactive +
      taskCount connections .closed + taskCount connections .released := by
  unfold taskCount
  induction connections with
  | nil => rfl
  | cons c rest ih =>
    simp only [List.length_cons, List.countP_cons, ih]
    cases c.task <;> simp <;> omega

/-- A task that is new handles its connection. -/
@[simp] theorem taskCount_append_handling (connections : List ClientConnection)
    (isOpen isUpgraded : Bool) (phase : TaskPhase) :
    taskCount (connections ++ [⟨.handling, isOpen, isUpgraded⟩]) phase =
      taskCount connections phase + if phase = .handling then 1 else 0 := by
  cases phase <;> simp [taskCount]

/-- The number of permits in use for the connection at hand. -/
def permitCount : LoopPhase → Nat
  | .waiting => 0
  | .permitted | .accepted | .activated => 1

/-- A permit is in use for the connection at hand and for each task that has not come to its
end. -/
theorem held_eq (s : Admission) :
    s.held = permitCount s.loop + (taskCount s.connections .handling +
      taskCount s.connections .inactive + taskCount s.connections .closed) := by
  have hlength := length_eq_taskCount s.connections
  have hsplit := List.length_eq_countP_add_countP (·.task != .released) (l := s.connections)
  have hreleased : s.connections.countP (fun c => ¬(c.task != .released) = true) =
      taskCount s.connections .released := List.countP_congr (by simp)
  have hloop : (if s.loop = .waiting then 0 else 1) = permitCount s.loop := by
    cases s.loop <;> rfl
  rw [held, hloop]
  omega

theorem countP_replace_add (p : ClientConnection → Bool) {i : Nat} {c : ClientConnection}
    (hc : s.connections[i]? = some c) (d : ClientConnection) :
    (s.replace i d).connections.countP p + (if p c then 1 else 0) =
      s.connections.countP p + (if p d then 1 else 0) :=
  countP_set_add p hc d

theorem taskCount_replace {i : Nat} {c : ClientConnection} (hc : s.connections[i]? = some c)
    (d : ClientConnection) (phase : TaskPhase) :
    taskCount (s.replace i d).connections phase + (if c.task = phase then 1 else 0) =
      taskCount s.connections phase + (if d.task = phase then 1 else 0) := by
  simpa only [taskCount, beq_iff_eq] using countP_replace_add (·.task == phase) hc d

/-- A phase that the task of the replaced connection leaves counts one task less. -/
theorem taskCount_replace_left {i : Nat} {c d : ClientConnection} {phase : TaskPhase}
    (hc : s.connections[i]? = some c) (hfrom : c.task = phase) (hto : d.task ≠ phase) :
    taskCount s.connections phase = taskCount (s.replace i d).connections phase + 1 := by
  have h := taskCount_replace hc d phase
  rw [if_pos hfrom, if_neg hto] at h
  exact h.symm

/-- A phase that the task of the replaced connection enters counts one task more. -/
theorem taskCount_replace_entered {i : Nat} {c d : ClientConnection} {phase : TaskPhase}
    (hc : s.connections[i]? = some c) (hfrom : c.task ≠ phase) (hto : d.task = phase) :
    taskCount (s.replace i d).connections phase = taskCount s.connections phase + 1 := by
  have h := taskCount_replace hc d phase
  rwa [if_neg hfrom, if_pos hto] at h

/-- A phase that the task of the replaced connection neither leaves nor enters counts as many
tasks as before. -/
theorem taskCount_replace_other {i : Nat} {c d : ClientConnection} {phase : TaskPhase}
    (hc : s.connections[i]? = some c) (h : c.task = phase ↔ d.task = phase) :
    taskCount (s.replace i d).connections phase = taskCount s.connections phase := by
  have hcount := taskCount_replace hc d phase
  simp only [h] at hcount
  exact Nat.add_right_cancel hcount

@[simp] theorem permits_replace (i : Nat) (c : ClientConnection) :
    (s.replace i c).permits = s.permits := rfl

@[simp] theorem stats_replace (i : Nat) (c : ClientConnection) :
    (s.replace i c).stats = s.stats := rfl

@[simp] theorem loop_replace (i : Nat) (c : ClientConnection) :
    (s.replace i c).loop = s.loop := rfl

@[simp] theorem length_connections_replace (i : Nat) (c : ClientConnection) :
    (s.replace i c).connections.length = s.connections.length :=
  List.length_set

end Admission

end Gatehouse
