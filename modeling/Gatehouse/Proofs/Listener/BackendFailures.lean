import Gatehouse.Listener.Requests
import Gatehouse.Proofs.Forwarding.Security
import Gatehouse.Proofs.Listener.Accounting

/-!
# Which failures a listener counts

A request that fails at some layer of its way to the backend is answered by the router itself, as a
bad gateway or as a service that is unavailable. The counter of backend failures follows these
answers for plain requests only: the failure of a request for WebSocket is answered in the same way
and is not counted. So the counter is the number of all such answers just as long as no request for
WebSocket has failed.

## Main definitions

* `Handled.isBackendError`: the router answers by itself for the backend.
* `HttpService.Transition`: the effects of the events.
* `HttpService.failureCount`: the requests that have failed, plain ones or those for WebSocket.
* `HttpService.failureAnswers`: those of them that have been answered, or have not been yet.

## Main results

* `HttpForwarder.isBackendError_handle_iff`: when the router answers for the backend.
* `HttpForwarder.isBackendFailure_handle`: which of these answers are counted.
* `HttpService.Tallied.of_transition`: every transition keeps the count right.
* `HttpService.backendFailed_of_run`: what the counter is in every run.
* `HttpService.uncounted_upgrade`: a failure that is answered and not counted.
-/

namespace Gatehouse

/-- Whether the router answers by itself, as a bad gateway or as a service that is unavailable. -/
def Handled.isBackendError (x : Handled) : Bool :=
  x.ownStatus? = some Status.badGateway ∨ x.ownStatus? = some Status.serviceUnavailable

theorem Handled.isBackendError_iff {x : Handled} : x.isBackendError = true ↔
    x.ownStatus? = some Status.badGateway ∨ x.ownStatus? = some Status.serviceUnavailable :=
  decide_eq_true_iff

namespace HttpForwarder

variable {τ : Type} (f : HttpForwarder) (resolver : Resolver τ)
  (servers : BackendStream τ → BackendServer) (draws : Draws) (key : Bytes) (peer : SocketAddress)
  (port : Nat) (r : Request)

/-- The router answers for the backend just if a request that is taken up fails at some layer. -/
theorem isBackendError_handle_iff :
    (f.handle resolver servers draws key peer port r).outcome.isBackendError = true ↔
      ¬ r.IsRefused ∧
        ∃ e, f.Failure resolver servers draws key ⟨peer, port, f.listenScheme⟩ r e := by
  rw [Handled.isBackendError_iff]
  rcases ownStatus?_cases f resolver servers draws key peer port r with
    ⟨hrefused, hstatus⟩ | ⟨htaken, ⟨e, hfailure, -⟩, hstatus⟩ |
    ⟨htaken, ⟨app, service, hfailure⟩, hstatus⟩ | ⟨htaken, hnone, hstatus⟩
  · exact iff_of_false (by rw [hstatus]; decide) fun h => h.1 hrefused
  · exact iff_of_true (.inl hstatus) ⟨htaken, e, hfailure⟩
  · exact iff_of_true (.inr hstatus) ⟨htaken, _, hfailure⟩
  · simp [hstatus, hnone]

/-- A request for WebSocket never counts as a failure of the backend. -/
theorem isBackendFailure_handleWebSocket (forwarded : Forwarded) :
    (f.handleWebSocket resolver servers draws key forwarded r).isBackendFailure = false := by
  unfold handleWebSocket
  dsimp only
  split
  next => rfl
  next =>
    split
    next => rfl
    next => rfl
    next =>
      split
      next => rfl
      next =>
        split
        next => rfl
        next => rfl
        next => split <;> rfl

/-- A plain request counts as a failure of the backend unless the answer of the backend is passed
on. -/
theorem isBackendFailure_handlePlain (forwarded : Forwarded) :
    (f.handlePlain resolver servers draws forwarded r).isBackendFailure =
      (f.handlePlain resolver servers draws forwarded r).outcome.ownStatus?.isSome := by
  unfold handlePlain
  dsimp only
  split
  next => rfl
  next => rfl
  next => split <;> rfl

/-- What counts as a failure of the backend is that the router answers for it to a plain
request. -/
theorem isBackendFailure_handle :
    let x := f.handle resolver servers draws key peer port r
    x.isBackendFailure = (!asksForWebSocket r.method r.headers && x.outcome.isBackendError) := by
  intro x
  cases hasks : asksForWebSocket r.method r.headers with
  | true =>
    simp only [x, handle, hasks, if_true]
    exact isBackendFailure_handleWebSocket ..
  | false =>
    have htaken : ¬ r.IsRefused := fun h => Bool.false_ne_true (hasks.symm.trans h.1)
    have hcounted : x.isBackendFailure = x.outcome.ownStatus?.isSome := by
      simp only [x, handle, hasks, Bool.false_eq_true, if_false]
      exact isBackendFailure_handlePlain ..
    -- A plain request is not refused, so any answer of the router's own is one for the backend.
    rw [hcounted, Bool.eq_iff_iff]
    simp only [Bool.not_false, Bool.true_and, Handled.isBackendError_iff]
    rcases ownStatus?_cases f resolver servers draws key peer port r with
      ⟨hrefused, -⟩ | ⟨-, -, hstatus⟩ | ⟨-, -, hstatus⟩ | ⟨-, -, hstatus⟩
    · exact absurd hrefused htaken
    all_goals simp [x, hstatus]

end HttpForwarder

/-! ### The effects of the events -/

namespace HttpService

variable {τ : Type} {f : HttpForwarder} {port : Nat} {s s' : HttpService}

/-- The effect of an event on a listener for HTTP. -/
inductive Transition (f : HttpForwarder) (port : Nat) (s : HttpService) :
    HttpServiceEvent τ → HttpService → Prop
  | admission {e : AdmissionEvent} {admission : Admission}
      (h : s.admission.Transition e admission) :
      Transition f port s (.admission e) { s with admission }
  | arrived {connection : Nat} {c : ClientConnection} {peer : SocketAddress} {r : Request}
      (hc : s.admission.connections[connection]? = some c) (htask : c.task = .handling)
      (hopen : c.isOpen = true) :
      Transition f port s (.arrive connection peer r)
        { s with requests := s.requests ++ [⟨peer, r, .handling⟩] }
  | handled {i : Nat} {c : Circumstances τ} {peer : SocketAddress} {r : Request} {x : Handling}
      (hq : s.requests[i]? = some ⟨peer, r, .handling⟩) (hx : x = f.handleIn port c peer r)
      (hended : x.outcome ≠ .pending) :
      Transition f port s (.handle i c) ((s.record x).replace i ⟨peer, r, .recorded x⟩)
  | answered {i : Nat} {peer : SocketAddress} {r : Request} {x : Handling}
      (hq : s.requests[i]? = some ⟨peer, r, .recorded x⟩) :
      Transition f port s (.answer i) (s.replace i ⟨peer, r, .answered x⟩)
  | abandoned {i : Nat} {peer : SocketAddress} {r : Request}
      (hq : s.requests[i]? = some ⟨peer, r, .handling⟩) :
      Transition f port s (.abandon i) (s.replace i ⟨peer, r, .abandoned⟩)

/-- An event that happens has one of the effects of `Transition`. -/
theorem transition_of_step {e : HttpServiceEvent τ} (h : s.step f port e = some s') :
    s.Transition f port e s' := by
  cases e with
  | admission e =>
    obtain ⟨admission, hstep, rfl⟩ := Option.map_eq_some_iff.1 h
    exact .admission (Admission.step_eq_some_iff.1 hstep)
  | arrive connection peer r =>
    simp only [step] at h
    split at h
    next c hc =>
      split_ifs at h with hopen
      cases h
      exact .arrived hc hopen.1 hopen.2
    next => cases h
  | handle i c =>
    simp only [step] at h
    split at h
    next hq =>
      split_ifs at h with hended
      cases h
      exact .handled hq rfl hended
    next => cases h
  | answer i =>
    simp only [step] at h
    split at h
    next hq =>
      cases h
      exact .answered hq
    next => cases h
  | abandon i =>
    simp only [step] at h
    split at h
    next hq =>
      cases h
      exact .abandoned hq
    next => cases h

end HttpService

/-! ### Counting failures -/

/-- What has come of a request, once it has been handled. -/
def RequestPhase.handling? : RequestPhase → Option Handling
  | .recorded x | .answered x => some x
  | .handling | .abandoned => none

/-- Whether the router's answer in some phase is one that it gives for the backend. -/
def RequestPhase.hasFailed (phase : RequestPhase) : Bool :=
  phase.handling?.any (·.outcome.isBackendError)

/-- Whether the client has been answered. -/
def RequestPhase.isAnswered : RequestPhase → Bool
  | .answered _ => true
  | .handling | .recorded _ | .abandoned => false

/-- Whether a request asks for WebSocket. -/
def InboundRequest.asksForWebSocket (q : InboundRequest) : Bool :=
  Gatehouse.asksForWebSocket q.request.method q.request.headers

/-- The elements that are counted have a property or have it not. -/
theorem countP_and_add {α : Type} (p t : α → Bool) (l : List α) :
    l.countP (fun a => p a && t a == true) + l.countP (fun a => p a && t a == false) =
      l.countP p := by
  rw [List.countP_eq_countP_filter_add l p t, List.countP_filter, List.countP_filter]
  congr 2 <;> simp

namespace HttpService

variable {τ : Type} {f : HttpForwarder} {port : Nat} {s s' : HttpService}

/-- The number of requests that have failed, of the plain ones or of those for WebSocket. -/
def failureCount (s : HttpService) (forWebSocket : Bool) : Nat :=
  s.requests.countP fun q => q.phase.hasFailed && q.asksForWebSocket == forWebSocket

/-- The number of requests that have failed, of those that have been answered or of the others. -/
def failureAnswers (s : HttpService) (isAnswered : Bool) : Nat :=
  s.requests.countP fun q => q.phase.hasFailed && q.phase.isAnswered == isAnswered

/-- A request that has failed is plain or for WebSocket, and has been answered or not. -/
theorem failureAnswers_add (s : HttpService) :
    s.failureAnswers true + s.failureAnswers false =
      s.failureCount true + s.failureCount false :=
  (countP_and_add _ _ _).trans (countP_and_add _ _ _).symm

@[simp] theorem stats_replace (s : HttpService) (i : Nat) (q : InboundRequest) :
    (s.replace i q).stats = s.stats := rfl

/-- A request that is moved to a phase in which it has failed as before leaves the failures as they
are. -/
theorem failureCount_replace {i : Nat} {peer : SocketAddress} {r : Request} {phase : RequestPhase}
    (hq : s.requests[i]? = some ⟨peer, r, phase⟩) (phase' : RequestPhase)
    (hphase : phase'.hasFailed = phase.hasFailed) (forWebSocket : Bool) :
    (s.replace i ⟨peer, r, phase'⟩).failureCount forWebSocket = s.failureCount forWebSocket := by
  have hcount := countP_set_add
    (fun q => q.phase.hasFailed && q.asksForWebSocket == forWebSocket) hq ⟨peer, r, phase'⟩
  simp only [hphase] at hcount
  exact Nat.add_right_cancel hcount

/-- A request that has been handled is one more failure of the plain requests just if it counts as
a failure of the backend. -/
theorem failureCount_of_handled {i : Nat} {peer : SocketAddress} {r : Request}
    (hq : s.requests[i]? = some ⟨peer, r, .handling⟩) (c : Circumstances τ) :
    let x := f.handleIn port c peer r
    ((s.record x).replace i ⟨peer, r, .recorded x⟩).failureCount false =
      s.failureCount false + if x.isBackendFailure then 1 else 0 := by
  intro x
  have hcount := countP_set_add (fun q => q.phase.hasFailed && q.asksForWebSocket == false) hq
    ⟨peer, r, .recorded x⟩
  have hcounted : x.isBackendFailure =
      (!Gatehouse.asksForWebSocket r.method r.headers && x.outcome.isBackendError) :=
    f.isBackendFailure_handle c.resolver c.servers c.draws c.key peer port r
  rw [hcounted, Bool.and_comm, ← beq_false]
  exact hcount

theorem backendFailed_record (s : HttpService) (x : Handling) :
    (s.record x).stats.backendFailed =
      s.stats.backendFailed + UInt64.ofNat (if x.isBackendFailure then 1 else 0) := by
  unfold record Handling.record stats
  split
  · rfl
  · exact (UInt64.add_zero _).symm

/-- What happens to the connections does not count as a failure. -/
theorem backendFailed_of_admission {a a' : Admission} {e : AdmissionEvent}
    (h : a.Transition e a') : a'.stats.backendFailed = a.stats.backendFailed := by
  cases h <;> rfl

/-- If a request has been handled, then as the listener does in some circumstances. -/
def IsHandled (τ : Type) (f : HttpForwarder) (port : Nat) (q : InboundRequest) : Prop :=
  ∀ x, q.phase.handling? = some x →
    ∃ c : Circumstances τ, x = f.handleIn port c q.peer q.request

theorem isHandled_of_eq_none {q : InboundRequest} (hq : q.phase.handling? = none) :
    IsHandled τ f port q :=
  fun _ hx => absurd (hq.symm.trans hx) (Option.some_ne_none _).symm

/-- The failures of plain requests have been counted, and no request has been handled in another
way than the listener does. -/
structure Tallied (τ : Type) (f : HttpForwarder) (port : Nat) (s : HttpService) : Prop where
  backendFailed_eq : s.stats.backendFailed = UInt64.ofNat (s.failureCount false)
  isHandled : ∀ q ∈ s.requests, IsHandled τ f port q

theorem tallied_start (f : HttpForwarder) (port permits : Nat) :
    (start permits).Tallied τ f port where
  backendFailed_eq := rfl
  isHandled _ hq := absurd hq List.not_mem_nil

/-- What holds of all requests goes on to hold if it holds of one that is put in. -/
theorem forall_mem_replace {P : InboundRequest → Prop} (hs : ∀ q ∈ s.requests, P q) {i : Nat}
    {q : InboundRequest} (hq : P q) : ∀ q' ∈ (s.replace i q).requests, P q' := by
  intro q' hmem
  rcases List.mem_or_eq_of_mem_set hmem with hold | rfl
  · exact hs q' hold
  · exact hq

/-- Every transition keeps the count right. -/
theorem Tallied.of_transition {e : HttpServiceEvent τ} (h : s.Transition f port e s')
    (hs : s.Tallied τ f port) : s'.Tallied τ f port := by
  cases h with
  | admission h =>
    exact ⟨(backendFailed_of_admission h).trans hs.backendFailed_eq, hs.isHandled⟩
  | arrived =>
    refine ⟨?_, fun q hmem => ?_⟩
    · simp only [failureCount, List.countP_append]
      exact hs.backendFailed_eq
    · rcases List.mem_append.1 hmem with hold | hnew
      · exact hs.isHandled q hold
      · rw [List.mem_singleton.1 hnew]
        exact isHandled_of_eq_none rfl
  | @handled _ c peer r x hq hx _ =>
    refine ⟨?_, forall_mem_replace (s := s.record x) hs.isHandled fun _ hx' => ⟨c, ?_⟩⟩
    · subst hx
      rw [failureCount_of_handled hq c, UInt64.ofNat_add, ← hs.backendFailed_eq]
      exact backendFailed_record s _
    · cases hx'
      exact hx
  | @answered _ peer r x hq =>
    have hcount := failureCount_replace hq (.answered x) rfl false
    have hold := hs.isHandled _ (List.mem_of_getElem? hq)
    refine ⟨?_, forall_mem_replace hs.isHandled fun x' hx' => hold x' hx'⟩
    rw [stats_replace, hcount, hs.backendFailed_eq]
  | @abandoned _ peer r hq =>
    have hcount := failureCount_replace hq .abandoned rfl false
    refine ⟨?_, forall_mem_replace hs.isHandled (isHandled_of_eq_none rfl)⟩
    rw [stats_replace, hcount, hs.backendFailed_eq]

theorem tallied_of_run {permits : Nat} {events : List (HttpServiceEvent τ)}
    (hrun : (start permits).run f port events = some s) : s.Tallied τ f port :=
  foldlM_induction (fun h hs => hs.of_transition (transition_of_step h)) hrun
    (tallied_start f port permits)

/-- Two numbers have the same word just if they differ by a multiple of its size. -/
theorem ofNat_eq_ofNat_add_iff (n m : Nat) :
    UInt64.ofNat n = UInt64.ofNat (m + n) ↔ UInt64.size ∣ m := by
  rw [← UInt64.toNat_inj, UInt64.toNat_ofNat', UInt64.toNat_ofNat', UInt64.size]
  omega

/-- What the counter of backend failures is, for any requests, any rack and any backends, and in
whatever order things happen. A request that has been handled is answered for the backend just if
it was taken up and has failed at some layer. The counter is the number of the plain requests that
have failed so. The answers that the router has given for the backend, and those that it is about
to give, are those to plain requests and to requests for WebSocket that have failed. So when none is
still to be given, the counter is the number of these answers just if no request for WebSocket has
failed, as far as a word can tell. -/
theorem backendFailed_of_run {permits : Nat} {events : List (HttpServiceEvent τ)}
    (hrun : (start permits).run f port events = some s) :
    (∀ q ∈ s.requests, ∀ x, q.phase.handling? = some x → ∃ c : Circumstances τ,
      x = f.handleIn port c q.peer q.request ∧
      (x.outcome.isBackendError = true ↔ ¬ q.request.IsRefused ∧ ∃ e,
        f.Failure c.resolver c.servers c.draws c.key ⟨q.peer, port, f.listenScheme⟩ q.request
          e)) ∧
    s.stats.backendFailed = UInt64.ofNat (s.failureCount false) ∧
    s.failureAnswers true + s.failureAnswers false = s.failureCount true + s.failureCount false ∧
    (s.failureAnswers false = 0 →
      (s.stats.backendFailed = UInt64.ofNat (s.failureAnswers true) ↔
        UInt64.size ∣ s.failureCount true) ∧
      (s.failureAnswers true < UInt64.size →
        (s.stats.backendFailed.toNat = s.failureAnswers true ↔ s.failureCount true = 0))) := by
  have hs := tallied_of_run hrun
  have hcounter := hs.backendFailed_eq
  have hsum := s.failureAnswers_add
  refine ⟨fun q hq x hx => ?_, hcounter, hsum, fun hsettled => ?_⟩
  · obtain ⟨c, rfl⟩ := hs.isHandled q hq x hx
    exact ⟨c, rfl, f.isBackendError_handle_iff c.resolver c.servers c.draws c.key q.peer port _⟩
  · rw [hsettled, Nat.add_zero] at hsum
    refine ⟨?_, fun hfits => ?_⟩
    · rw [hcounter, hsum]
      exact ofNat_eq_ofNat_add_iff _ _
    · rw [hcounter, UInt64.toNat_ofNat_of_lt' (by omega)]
      omega

/-- A backend in the rack that closes every connection. -/
def closingBackend : Circumstances Unit where
  resolver := HttpForwarder.rackResolver
  servers _ := ⟨.fails handshakeEof, fun _ => none, fun _ => none⟩
  draws _ := 0
  key := HttpForwarder.chatKey

/-- A connection comes in, and one request over it, which is handled and answered. -/
def oneRequest (r : Request) : List (HttpServiceEvent Unit) :=
  [.admission .incoming, .admission .loop, .admission .loop, .admission .loop,
    .arrive 0 ⟨.v4 ⟨10, 0, 0, 7⟩, 51234⟩ r, .handle 0 closingBackend, .answer 0]

/-- A plain request that a backend does not answer is counted. -/
theorem backendFailed_of_plainRequest :
    ∃ s, (start 1).run HttpForwarder.rackForwarder 80 (oneRequest HttpForwarder.plainRequest) =
        some s ∧ s.failureAnswers true = 1 ∧ s.stats.backendFailed.toNat = 1 := by
  have hlast : ((start 1).run HttpForwarder.rackForwarder 80
      (oneRequest HttpForwarder.plainRequest)).map
      (fun s => (s.failureAnswers true, s.failureAnswers false, s.failureCount true)) =
      some (1, 0, 0) := by decide +kernel
  obtain ⟨s, hrun, heq⟩ := Option.map_eq_some_iff.1 hlast
  obtain ⟨hanswered, heq⟩ := Prod.mk.inj heq
  obtain ⟨hsettled, hupgrades⟩ := Prod.mk.inj heq
  obtain ⟨-, -, -, hcounter⟩ := backendFailed_of_run hrun
  have hiff := (hcounter hsettled).2 (hanswered.symm ▸ by decide)
  exact ⟨s, hrun, hanswered, (hiff.2 hupgrades).trans hanswered⟩

/-- A request for WebSocket that the same backend does not answer is answered in the same way, and
is not counted. -/
theorem uncounted_upgrade :
    HttpForwarder.create ⟨"http", none, "", none, none⟩ HttpForwarder.rackUpstream "a.test" =
        .ok HttpForwarder.rackForwarder ∧
    ∃ s, (start 1).run HttpForwarder.rackForwarder 80 (oneRequest HttpForwarder.chatRequest) =
        some s ∧ s.failureAnswers true = 1 ∧ s.failureAnswers false = 0 ∧
      s.stats.backendFailed = 0 := by
  have hlast : ((start 1).run HttpForwarder.rackForwarder 80
      (oneRequest HttpForwarder.chatRequest)).map
      (fun s => (s.failureAnswers true, s.failureAnswers false, s.stats.backendFailed)) =
      some (1, 0, 0) := by decide +kernel
  obtain ⟨s, hrun, heq⟩ := Option.map_eq_some_iff.1 hlast
  exact ⟨rfl, s, hrun, by simpa using heq⟩

end HttpService

end Gatehouse
