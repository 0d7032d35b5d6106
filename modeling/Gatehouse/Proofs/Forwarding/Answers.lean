import Gatehouse.Proofs.Forwarding.Failures

/-!
# Which answer a request gets

A request gets one answer at most. It is refused before anything is asked of the rack or the
network, it fails at some layer, or the backend answers it. The status of the first two is the
router's own and tells them apart; the answer of the backend to a plain request is passed on,
whatever its status is. A request gets no answer if the rack or the backend is waited for forever:
the router sets no limit to that.

## Main definitions

* `Handled.ownStatus?`: the status that the router answers with by itself.
* `Request.IsRefused`: a request for WebSocket that is not taken up.

## Main results

* `HttpForwarder.handle_of_isRefused`, `HttpForwarder.outcome_of_failure`,
  `HttpForwarder.outcome_of_waits`, `HttpForwarder.outcome_of_plain`,
  `HttpForwarder.handle_of_webSocket`: what becomes of a request.
* `HttpForwarder.outcome_cases`: one of these becomes of it.
* `HttpForwarder.answer_of_request`: which answer a request gets.
* `HttpForwarder.answer_of_publicSiteServer`: an answer that is passed on.
* `HttpForwarder.request_without_answer`: a request that gets none.
-/

namespace Gatehouse

/-- The status that the router answers with by itself, if it does not pass on the answer of the
backend. -/
def Handled.ownStatus? : Handled → Option Nat
  | .failed cause => some cause.status
  | .relayed _ => none
  | .upgraded .. => none
  | .pending => none

/-- The router's own answers have one of three statuses, and are made from it alone. -/
theorem Handled.response?_of_ownStatus? {x : Handled} {status : Nat}
    (h : x.ownStatus? = some status) : x.response? = some (.ofStatus status) ∧
      (status = Status.badRequest ∨ status = Status.serviceUnavailable ∨
        status = Status.badGateway) := by
  cases x with
  | failed cause =>
    cases h
    refine ⟨rfl, ?_⟩
    cases cause <;> simp [RouterError.status]
  | relayed | upgraded | pending => cases h

/-- A client is given no response just if the rack or the backend is waited for forever. -/
theorem Handled.response?_eq_none_iff {x : Handled} : x.response? = none ↔ x = .pending := by
  cases x <;> simp [response?]

/-- A request for WebSocket that is not taken up. -/
def Request.IsRefused (r : Request) : Prop :=
  asksForWebSocket r.method r.headers = true ∧ ¬ r.headers.IsAcceptable

namespace HttpForwarder

variable {τ : Type} {f : HttpForwarder} {resolver : Resolver τ}
  {servers : BackendStream τ → BackendServer} {draws : Draws} {key : Bytes} {peer : SocketAddress}
  {port : Nat} {forwarded : Forwarded} {r : Request}

/-! ### What becomes of a request -/

/-- A request that is refused is answered before anything else happens. -/
theorem handle_of_isRefused (f : HttpForwarder) (resolver : Resolver τ)
    (servers : BackendStream τ → BackendServer) (draws : Draws) (key : Bytes)
    (peer : SocketAddress) (port : Nat) (h : r.IsRefused) :
    ∃ text, f.handle resolver servers draws key peer port r =
      unsent (.failed (.upgradeFailure text)) [] 0 false := by
  obtain ⟨hasks, hbad⟩ := h
  obtain ⟨text, haccept⟩ := acceptInbound_of_not_isAcceptable hbad
  exact ⟨text, by simp only [handle, hasks, if_true, handleWebSocket, haccept]⟩

/-- A request for WebSocket that is taken up is acceptable. -/
theorem acceptInbound_of_taken (hasks : asksForWebSocket r.method r.headers = true)
    (htaken : ¬ r.IsRefused) :
    ∃ clientKey, r.headers.first? "sec-websocket-key" = some clientKey ∧
      acceptInbound r.headers = .ok (WebSocket.acceptValue clientKey) := by
  obtain ⟨hversion, clientKey, hkey⟩ : r.headers.IsAcceptable :=
    Classical.byContradiction fun hbad => htaken ⟨hasks, hbad⟩
  exact ⟨clientKey, hkey, acceptInbound_of_isAcceptable hversion hkey⟩

/-- A hop that cannot be opened is a failure, for a plain request and for one for WebSocket. -/
theorem outcome_of_unopened {e : RouterError} (htaken : ¬ r.IsRefused)
    (hopened : (resolver.openHop servers f.target (f.securityFor r) draws).result = .error e) :
    (f.handle resolver servers draws key peer port r).outcome = .failed e := by
  cases hasks : asksForWebSocket r.method r.headers with
  | true =>
    obtain ⟨_, -, haccept⟩ := acceptInbound_of_taken hasks htaken
    simp only [securityFor, hasks, if_true] at hopened
    simp only [handle, hasks, if_true, handleWebSocket, haccept, hopened, unsent]
  | false =>
    simp only [securityFor, hasks, Bool.false_eq_true, if_false] at hopened
    simp only [handle, hasks, Bool.false_eq_true, if_false, handlePlain, hopened, unsent]

/-- While a hop is waited for, so is what becomes of the request. -/
theorem outcome_of_unopened_pending (htaken : ¬ r.IsRefused)
    (hopened : (resolver.openHop servers f.target (f.securityFor r) draws).result = .pending) :
    (f.handle resolver servers draws key peer port r).outcome = .pending := by
  cases hasks : asksForWebSocket r.method r.headers with
  | true =>
    obtain ⟨_, -, haccept⟩ := acceptInbound_of_taken hasks htaken
    simp only [securityFor, hasks, if_true] at hopened
    simp only [handle, hasks, if_true, handleWebSocket, haccept, hopened, unsent]
  | false =>
    simp only [securityFor, hasks, Bool.false_eq_true, if_false] at hopened
    simp only [handle, hasks, Bool.false_eq_true, if_false, handlePlain, hopened, unsent]

section Sent

variable {hop : Hop} {request : Request} {response : Response} {early : Bytes}

/-- A request that is taken up and fails is answered by the router. -/
theorem outcome_of_failure {e : RouterError} (htaken : ¬ r.IsRefused)
    (h : f.Failure resolver servers draws key ⟨peer, port, f.listenScheme⟩ r e) :
    (f.handle resolver servers draws key peer port r).outcome = .failed e := by
  cases h with
  | unreached hconnect =>
    exact outcome_of_unopened htaken (Resolver.openHop_eq_error_iff.2 (.inl hconnect))
  | unsecured hconnect hsecure =>
    exact outcome_of_unopened htaken (Resolver.openHop_eq_error_iff.2 (.inr ⟨_, hconnect, hsecure⟩))
  | unwritable hopened hsent =>
    -- A plain request always has a target.
    cases hasks : asksForWebSocket r.method r.headers with
    | true =>
      obtain ⟨_, -, haccept⟩ := acceptInbound_of_taken hasks htaken
      simp only [securityFor, sent?, hasks, if_true] at hopened hsent
      simp only [handle, hasks, if_true, handleWebSocket, haccept, hopened, hsent]
    | false => simp [sent?, hasks] at hsent
  | unanswered hopened hsent hfails =>
    cases hasks : asksForWebSocket r.method r.headers with
    | true =>
      obtain ⟨_, -, haccept⟩ := acceptInbound_of_taken hasks htaken
      simp only [securityFor, sent?, hasks, if_true] at hopened hsent
      simp only [handle, hasks, if_true, handleWebSocket, haccept, hopened, hsent, hfails.exchange]
    | false =>
      simp only [securityFor, sent?, hasks, Bool.false_eq_true, if_false, Option.some.injEq]
        at hopened hsent
      subst hsent
      simp only [handle, hasks, Bool.false_eq_true, if_false, handlePlain, hopened,
        hfails.exchange]
  | unswitched hasks hexchanged hstatus =>
    obtain ⟨hopened, hsent, hanswers⟩ := hexchanged
    obtain ⟨_, -, haccept⟩ := acceptInbound_of_taken hasks htaken
    simp only [securityFor, sent?, hasks, if_true] at hopened hsent
    simp only [handle, hasks, if_true, handleWebSocket, haccept, hopened, hsent, hanswers.exchange,
      checkAccepted_of_status hstatus]
  | unaccepted hasks hexchanged hstatus haccepted =>
    obtain ⟨hopened, hsent, hanswers⟩ := hexchanged
    obtain ⟨_, -, haccept⟩ := acceptInbound_of_taken hasks htaken
    simp only [securityFor, sent?, hasks, if_true] at hopened hsent
    simp only [handle, hasks, if_true, handleWebSocket, haccept, hopened, hsent, hanswers.exchange,
      checkAccepted_of_accept hstatus haccepted]

/-- Nothing becomes of a request that is taken up and waits forever. -/
theorem outcome_of_waits (htaken : ¬ r.IsRefused)
    (h : f.Waits resolver servers draws key ⟨peer, port, f.listenScheme⟩ r) :
    (f.handle resolver servers draws key peer port r).outcome = .pending := by
  cases h with
  | forRack hconnect =>
    exact outcome_of_unopened_pending htaken (Resolver.openHop_eq_pending_iff.2 (.inl hconnect))
  | forSession hconnect hsecure =>
    exact outcome_of_unopened_pending htaken
      (Resolver.openHop_eq_pending_iff.2 (.inr ⟨_, hconnect, hsecure⟩))
  | forAnswer hopened hsent hwaits =>
    cases hasks : asksForWebSocket r.method r.headers with
    | true =>
      obtain ⟨_, -, haccept⟩ := acceptInbound_of_taken hasks htaken
      simp only [securityFor, sent?, hasks, if_true] at hopened hsent
      simp only [handle, hasks, if_true, handleWebSocket, haccept, hopened, hsent, hwaits.exchange]
    | false =>
      simp only [securityFor, sent?, hasks, Bool.false_eq_true, if_false, Option.some.injEq]
        at hopened hsent
      subst hsent
      simp only [handle, hasks, Bool.false_eq_true, if_false, handlePlain, hopened,
        hwaits.exchange]

/-- The answer of the backend to a plain request is passed on. -/
theorem outcome_of_plain (hasks : asksForWebSocket r.method r.headers = false)
    (h : f.Exchanged resolver servers draws key ⟨peer, port, f.listenScheme⟩ r hop request response
      early) :
    (f.handle resolver servers draws key peer port r).outcome =
      .relayed { response with headers := HeaderFilter.hopByHop.strip response.headers } := by
  obtain ⟨hopened, hsent, hanswers⟩ := h
  simp only [securityFor, sent?, hasks, Bool.false_eq_true, if_false, Option.some.injEq]
    at hopened hsent
  subst hsent
  simp only [handle, hasks, Bool.false_eq_true, if_false, handlePlain, hopened, hanswers.exchange]

/-- A client is upgraded once the backend has accepted the opening handshake. -/
theorem handle_of_webSocket (hasks : asksForWebSocket r.method r.headers = true) {accept : Bytes}
    (haccept : acceptInbound r.headers = .ok accept)
    (h : f.Exchanged resolver servers draws key ⟨peer, port, f.listenScheme⟩ r hop request response
      early) (hstatus : response.status = Status.switchingProtocols)
    (haccepted : response.headers.first? "sec-websocket-accept" =
      some (WebSocket.acceptValue key)) :
    f.handle resolver servers draws key peer port r =
      ⟨.upgraded accept early, (resolver.connect f.target draws).calls,
        (resolver.connect f.target draws).drawsUsed, request.deliver, hop.session, false,
        true⟩ := by
  obtain ⟨hopened, hsent, hanswers⟩ := h
  simp only [securityFor, sent?, hasks, if_true] at hopened hsent
  simp only [handle, hasks, if_true, handleWebSocket, haccept, hopened, hsent, hanswers.exchange,
    checkAccepted_eq_ok_iff.2 ⟨hstatus, haccepted⟩]
  rfl

end Sent

/-- What becomes of a request: it is refused, fails, waits forever, or is answered by the
backend. -/
theorem outcome_cases (f : HttpForwarder) (resolver : Resolver τ)
    (servers : BackendStream τ → BackendServer) (draws : Draws) (key : Bytes)
    (peer : SocketAddress) (port : Nat) (r : Request) :
    let outcome := (f.handle resolver servers draws key peer port r).outcome
    let asks := asksForWebSocket r.method r.headers
    (r.IsRefused ∧ ∃ text, outcome = .failed (.upgradeFailure text)) ∨
    (¬ r.IsRefused ∧ ∃ e, f.Failure resolver servers draws key ⟨peer, port, f.listenScheme⟩ r e ∧
      outcome = .failed e) ∨
    (¬ r.IsRefused ∧ f.Waits resolver servers draws key ⟨peer, port, f.listenScheme⟩ r ∧
      outcome = .pending) ∨
    (¬ r.IsRefused ∧ ∃ hop request response early,
      f.Exchanged resolver servers draws key ⟨peer, port, f.listenScheme⟩ r hop request response
        early ∧
      (asks = false → outcome =
        .relayed { response with headers := HeaderFilter.hopByHop.strip response.headers }) ∧
      (asks = true → ∃ accept, outcome = .upgraded accept early)) := by
  intro outcome asks
  by_cases hrefused : r.IsRefused
  · obtain ⟨text, hhandle⟩ := handle_of_isRefused f resolver servers draws key peer port hrefused
    exact .inl ⟨hrefused, text, congrArg Handling.outcome hhandle⟩
  · refine .inr ?_
    rcases failure_or_exchanged f resolver servers draws key ⟨peer, port, f.listenScheme⟩ r with
      ⟨e, hfailure⟩ | ⟨hop, request, response, early, hexchanged, hcheck⟩ | hwaits
    · exact .inl ⟨hrefused, e, hfailure, outcome_of_failure hrefused hfailure⟩
    · refine .inr (.inr ⟨hrefused, hop, request, response, early, hexchanged,
        fun hasks => outcome_of_plain hasks hexchanged, fun hasks => ?_⟩)
      obtain ⟨_, -, haccept⟩ := acceptInbound_of_taken hasks hrefused
      obtain ⟨hstatus, haccepted⟩ := hcheck hasks
      exact ⟨_, congrArg Handling.outcome
        (handle_of_webSocket hasks haccept hexchanged hstatus haccepted)⟩
    · exact .inr (.inl ⟨hrefused, hwaits, outcome_of_waits hrefused hwaits⟩)

/-! ### The status of the router's own answers -/

theorem ownStatus?_of_isRefused (h : r.IsRefused) :
    (f.handle resolver servers draws key peer port r).outcome.ownStatus? =
      some Status.badRequest := by
  obtain ⟨text, hhandle⟩ := handle_of_isRefused f resolver servers draws key peer port h
  rw [hhandle]
  rfl

theorem ownStatus?_of_failure {e : RouterError} (htaken : ¬ r.IsRefused)
    (h : f.Failure resolver servers draws key ⟨peer, port, f.listenScheme⟩ r e) :
    (f.handle resolver servers draws key peer port r).outcome.ownStatus? = some e.status := by
  rw [outcome_of_failure htaken h]
  rfl

/-- A request that is not refused and does not fail is not answered by the router itself. -/
theorem ownStatus?_of_no_failure (htaken : ¬ r.IsRefused)
    (hnone : ∀ e, ¬ f.Failure resolver servers draws key ⟨peer, port, f.listenScheme⟩ r e) :
    (f.handle resolver servers draws key peer port r).outcome.ownStatus? = none := by
  rcases outcome_cases f resolver servers draws key peer port r with
    ⟨hrefused, -⟩ | ⟨-, e, hfailure, -⟩ | ⟨-, -, houtcome⟩ |
    ⟨-, _, _, response, early, -, hplain, hwebSocket⟩
  · exact absurd hrefused htaken
  · exact absurd hfailure (hnone e)
  · rw [houtcome]
    rfl
  · cases hasks : asksForWebSocket r.method r.headers with
    | true =>
      obtain ⟨accept, houtcome⟩ := hwebSocket hasks
      rw [houtcome]
      rfl
    | false =>
      rw [hplain hasks]
      rfl

/-- Whether a request is refused, fails as a bad gateway, fails for want of a process, or fails not
at all shows in the router's own status. -/
theorem ownStatus?_cases (f : HttpForwarder) (resolver : Resolver τ)
    (servers : BackendStream τ → BackendServer) (draws : Draws) (key : Bytes)
    (peer : SocketAddress) (port : Nat) (r : Request) :
    let failure := f.Failure resolver servers draws key ⟨peer, port, f.listenScheme⟩ r
    let status := (f.handle resolver servers draws key peer port r).outcome.ownStatus?
    r.IsRefused ∧ status = some Status.badRequest ∨
    ¬ r.IsRefused ∧ (∃ e, failure e ∧ e.IsBadGateway) ∧ status = some Status.badGateway ∨
    ¬ r.IsRefused ∧ (∃ app service, failure (.noInstances app service)) ∧
      status = some Status.serviceUnavailable ∨
    ¬ r.IsRefused ∧ (∀ e, ¬ failure e) ∧ status = none := by
  intro failure status
  by_cases hrefused : r.IsRefused
  · exact .inl ⟨hrefused, ownStatus?_of_isRefused hrefused⟩
  · refine .inr ?_
    by_cases hfailure : ∃ e, failure e
    · obtain ⟨e, hfailure⟩ := hfailure
      have hstatus : status = some e.status := ownStatus?_of_failure hrefused hfailure
      rcases hfailure.status_cases with hbad | ⟨app, service, rfl, -⟩
      · exact .inl ⟨hrefused, ⟨e, hfailure, hbad⟩, hstatus.trans (congrArg some hbad)⟩
      · exact .inr (.inl ⟨hrefused, ⟨app, service, hfailure⟩, hstatus⟩)
    · have hnone : ∀ e, ¬ failure e := fun e he => hfailure ⟨e, he⟩
      exact .inr (.inr ⟨hrefused, hnone, ownStatus?_of_no_failure hrefused hnone⟩)

section Status

variable (f resolver servers draws key peer port r)

theorem ownStatus?_eq_badRequest_iff :
    (f.handle resolver servers draws key peer port r).outcome.ownStatus? =
      some Status.badRequest ↔ r.IsRefused := by
  refine ⟨fun h => ?_, ownStatus?_of_isRefused⟩
  rcases ownStatus?_cases f resolver servers draws key peer port r with
    ⟨hrefused, -⟩ | ⟨-, -, hstatus⟩ | ⟨-, -, hstatus⟩ | ⟨-, -, hstatus⟩
  · exact hrefused
  all_goals cases h.symm.trans hstatus

theorem ownStatus?_eq_serviceUnavailable_iff :
    (f.handle resolver servers draws key peer port r).outcome.ownStatus? =
      some Status.serviceUnavailable ↔ ¬ r.IsRefused ∧ ∃ app service,
        (resolver.connect f.target draws).result = .error (.noInstances app service) := by
  constructor
  · intro h
    rcases ownStatus?_cases f resolver servers draws key peer port r with
      ⟨-, hstatus⟩ | ⟨-, -, hstatus⟩ | ⟨htaken, ⟨app, service, hfailure⟩, -⟩ | ⟨-, -, hstatus⟩
    · cases h.symm.trans hstatus
    · cases h.symm.trans hstatus
    · exact ⟨htaken, app, service, failure_noInstances_iff.1 hfailure⟩
    · cases h.symm.trans hstatus
  · rintro ⟨htaken, app, service, hconnect⟩
    exact ownStatus?_of_failure htaken (.unreached hconnect)

theorem ownStatus?_eq_badGateway_iff :
    (f.handle resolver servers draws key peer port r).outcome.ownStatus? =
      some Status.badGateway ↔ ¬ r.IsRefused ∧ ∃ e,
        f.Failure resolver servers draws key ⟨peer, port, f.listenScheme⟩ r e ∧
        ∀ app service, e ≠ .noInstances app service := by
  constructor
  · intro h
    rcases ownStatus?_cases f resolver servers draws key peer port r with
      ⟨-, hstatus⟩ | ⟨htaken, ⟨e, hfailure, hbad⟩, -⟩ | ⟨-, -, hstatus⟩ | ⟨-, -, hstatus⟩
    · cases h.symm.trans hstatus
    · refine ⟨htaken, e, hfailure, ?_⟩
      rintro app service rfl
      cases hbad
    · cases h.symm.trans hstatus
    · cases h.symm.trans hstatus
  · rintro ⟨htaken, e, hfailure, hother⟩
    rw [ownStatus?_of_failure htaken hfailure]
    rcases hfailure.status_cases with hbad | ⟨app, service, rfl, -⟩
    · exact congrArg some hbad
    · exact absurd rfl (hother app service)

theorem ownStatus?_eq_none_iff :
    (f.handle resolver servers draws key peer port r).outcome.ownStatus? = none ↔
      ¬ r.IsRefused ∧
        ∀ e, ¬ f.Failure resolver servers draws key ⟨peer, port, f.listenScheme⟩ r e := by
  refine ⟨fun h => ?_, fun ⟨htaken, hnone⟩ => ownStatus?_of_no_failure htaken hnone⟩
  rcases ownStatus?_cases f resolver servers draws key peer port r with
    ⟨-, hstatus⟩ | ⟨-, -, hstatus⟩ | ⟨-, -, hstatus⟩ | ⟨htaken, hnone, -⟩
  · cases h.symm.trans hstatus
  · cases h.symm.trans hstatus
  · cases h.symm.trans hstatus
  · exact ⟨htaken, hnone⟩

theorem outcome_eq_pending_iff :
    (f.handle resolver servers draws key peer port r).outcome = .pending ↔
      ¬ r.IsRefused ∧ f.Waits resolver servers draws key ⟨peer, port, f.listenScheme⟩ r := by
  refine ⟨fun h => ?_, fun ⟨htaken, hwaits⟩ => outcome_of_waits htaken hwaits⟩
  rcases outcome_cases f resolver servers draws key peer port r with
    ⟨-, text, houtcome⟩ | ⟨-, e, -, houtcome⟩ | ⟨htaken, hwaits, -⟩ |
    ⟨-, _, _, response, early, -, hplain, hwebSocket⟩
  · cases houtcome.symm.trans h
  · cases houtcome.symm.trans h
  · exact ⟨htaken, hwaits⟩
  · cases hasks : asksForWebSocket r.method r.headers with
    | true =>
      obtain ⟨accept, houtcome⟩ := hwebSocket hasks
      cases houtcome.symm.trans h
    | false => cases (hplain hasks).symm.trans h

end Status

/-- Which answer a request gets. A request for WebSocket with a bad version or without a key is
refused, and nothing is asked of the rack, the network or the backend. A request that is taken up is
answered as unavailable just if its service turns out to have no process, and as a bad gateway just
if it fails of anything else. It is not answered just if the rack or the backend is waited for
forever. In the remaining cases it is answered by the backend: its status and body are passed on to
a plain request with its fields, as far as they concern no hop. -/
theorem answer_of_request (f : HttpForwarder) (resolver : Resolver τ)
    (servers : BackendStream τ → BackendServer) (draws : Draws) (key : Bytes)
    (peer : SocketAddress) (port : Nat) (r : Request) :
    let failure := f.Failure resolver servers draws key ⟨peer, port, f.listenScheme⟩ r
    let waits := f.Waits resolver servers draws key ⟨peer, port, f.listenScheme⟩ r
    let exchanged := f.Exchanged resolver servers draws key ⟨peer, port, f.listenScheme⟩ r
    let handling := f.handle resolver servers draws key peer port r
    let status := handling.outcome.ownStatus?
    let asks := asksForWebSocket r.method r.headers
    -- The router's own answers.
    (status = some Status.badRequest ↔ r.IsRefused) ∧
    (r.IsRefused → handling.calls = [] ∧ handling.drawsUsed = 0 ∧ handling.session = none ∧
      handling.delivery = none) ∧
    (status = some Status.serviceUnavailable ↔ ¬ r.IsRefused ∧ ∃ app service,
      (resolver.connect f.target draws).result = .error (.noInstances app service)) ∧
    (status = some Status.badGateway ↔ ¬ r.IsRefused ∧ ∃ e, failure e ∧
      ∀ app service, e ≠ .noInstances app service) ∧
    (∀ code, status = some code → handling.outcome.response? = some (.ofStatus code) ∧
      (code = Status.badRequest ∨ code = Status.serviceUnavailable ∨ code = Status.badGateway)) ∧
    -- No answer.
    (handling.outcome.response? = none ↔ ¬ r.IsRefused ∧ waits) ∧
    -- The answers of the backend.
    (status = none ↔ ¬ r.IsRefused ∧ ∀ e, ¬ failure e) ∧
    (status = none → handling.outcome.response? ≠ none →
      ∃ hop request response early, exchanged hop request response early ∧
        (asks = true → ∃ accept, handling.outcome = .upgraded accept early)) ∧
    ∀ hop request response early, exchanged hop request response early → asks = false →
      handling.outcome.response? =
        some { response with headers := HeaderFilter.hopByHop.strip response.headers } := by
  intro failure waits exchanged handling status asks
  have hbad : status = some Status.badRequest ↔ r.IsRefused :=
    ownStatus?_eq_badRequest_iff f resolver servers draws key peer port r
  have hpending : handling.outcome = .pending ↔ ¬ r.IsRefused ∧ waits :=
    outcome_eq_pending_iff f resolver servers draws key peer port r
  refine ⟨hbad, fun h => ?_,
    ownStatus?_eq_serviceUnavailable_iff f resolver servers draws key peer port r,
    ownStatus?_eq_badGateway_iff f resolver servers draws key peer port r, fun code h => ?_,
    Handled.response?_eq_none_iff.trans hpending,
    ownStatus?_eq_none_iff f resolver servers draws key peer port r, fun h hresponse => ?_,
    fun hop request response early hexchanged hasks => ?_⟩
  · obtain ⟨text, hhandle⟩ :
        ∃ text, handling = unsent (.failed (.upgradeFailure text)) [] 0 false :=
      handle_of_isRefused f resolver servers draws key peer port h
    rw [hhandle]
    exact ⟨rfl, rfl, rfl, rfl⟩
  · exact Handled.response?_of_ownStatus? h
  · rcases outcome_cases f resolver servers draws key peer port r with
      ⟨hrefused, -⟩ | ⟨-, e, -, houtcome⟩ | ⟨-, -, houtcome⟩ |
      ⟨-, hop, request, response, early, hexchanged, -, hwebSocket⟩
    · cases (hbad.2 hrefused).symm.trans h
    · cases (congrArg Handled.ownStatus? houtcome).symm.trans h
    · exact absurd (Handled.response?_eq_none_iff.2 houtcome) hresponse
    · exact ⟨hop, request, response, early, hexchanged, hwebSocket⟩
  · exact congrArg Handled.response? (outcome_of_plain hasks hexchanged)

/-- A server outside the rack. -/
def siteUpstream : Url :=
  ⟨"http", some ⟨"", none, some (.name "site.test"), none⟩, "/", none, none⟩

/-- The settings for it. -/
def siteForwarder : HttpForwarder where
  listenScheme := "http"
  target := siteUpstream
  host := "a.test"
  director := .direct "/" none
  requestSecurity := .plain
  webSocketSecurity := .plain

/-- A resolver whose network reaches every address. -/
def directResolver : Resolver Unit :=
  ⟨⟨fun _ _ => .ok [], fun _ _ _ => .ok (), fun _ _ => .ok ()⟩,
    ⟨fun _ => .ok (.v4 ⟨10, 0, 0, 9⟩), fun _ => .opened⟩, 0, none⟩

/-- A plain request. -/
def plainRequest : Request := ⟨"GET", ⟨none, "", "/", none⟩, .empty, .sized [], .v11⟩

/-- The server, to be reached over TLS. -/
def secureSiteUpstream : Url := { siteUpstream with scheme := "https" }

/-- The settings for it. -/
def secureSiteForwarder : HttpForwarder :=
  { siteForwarder with
    target := secureSiteUpstream
    requestSecurity := .tls .publicAuthorities "site.test"
    webSocketSecurity := .tls .anyone "site.test" }

/-- A server that the public authorities stand for. It answers in two parts, with some time between
them, and leaves the connection open. -/
def publicSiteServer : BackendServer where
  tls := .speaks ⟨⟨"site.test", "public authority", 0, none⟩, [], .v13⟩
  early _ := none
  answer _ := some (.part 0 (Bytes.ofText "HTTP/1.1 404 Not Found\r\nconnection: close\r\n")
    (.part 500 (Bytes.ofText "content-length: 4\r\n\r\nlost") .silence))

/-- The answer of such a server is passed on without the field that concerns one hop. -/
theorem answer_of_publicSiteServer :
    create ⟨"http", none, "", none, none⟩ secureSiteUpstream "a.test" = .ok secureSiteForwarder ∧
    (secureSiteForwarder.handle directResolver (fun _ => publicSiteServer) (fun _ => 0) []
        ⟨.v4 ⟨10, 0, 0, 7⟩, 51234⟩ 80 plainRequest).outcome.response? =
      some ⟨404, Headers.empty.append "content-length" (Bytes.ofText "4"),
        .complete (Bytes.ofText "lost")⟩ := by
  have hopened : (directResolver.openHop (fun _ => publicSiteServer) secureSiteUpstream
      (secureSiteForwarder.securityFor plainRequest) (fun _ => 0)).result =
        .ok ⟨publicSiteServer, some ⟨none, .v13, some "site.test"⟩⟩ :=
    Resolver.openHop_eq_ok_iff.2
      ⟨.direct ⟨.v4 ⟨10, 0, 0, 9⟩, 443⟩, by decide +kernel, by decide +kernel, rfl⟩
  have hanswers : Hop.Answers ⟨publicSiteServer, some ⟨none, .v13, some "site.test"⟩⟩
      (secureSiteForwarder.outbound ⟨⟨.v4 ⟨10, 0, 0, 7⟩, 51234⟩, 80, "http"⟩ plainRequest)
      ⟨404, (Headers.empty.append "connection" (Bytes.ofText "close")).append "content-length"
        (Bytes.ofText "4"), .complete (Bytes.ofText "lost")⟩ (Bytes.ofText "lost") :=
    ⟨_, .whole (fun _ => rfl) rfl rfl rfl, by rfl⟩
  obtain ⟨-, -, -, -, -, -, -, -, hrelayed⟩ := answer_of_request secureSiteForwarder directResolver
    (fun _ => publicSiteServer) (fun _ => 0) [] ⟨.v4 ⟨10, 0, 0, 7⟩, 51234⟩ 80 plainRequest
  exact ⟨rfl, (hrelayed _ _ _ _ ⟨hopened, rfl, hanswers⟩ (by decide)).trans (by decide +kernel)⟩

/-- A server that receives requests and says nothing. -/
def silentServer : BackendServer where
  tls := .plain
  early _ := none
  answer _ := some .silence

/-- A plain request that a server receives and does not answer is not answered by the router
either. -/
theorem request_without_answer :
    create ⟨"http", none, "", none, none⟩ siteUpstream "a.test" = .ok siteForwarder ∧
    ¬ plainRequest.IsRefused ∧
    let handling := siteForwarder.handle directResolver (fun _ => silentServer) (fun _ => 0) []
      ⟨.v4 ⟨10, 0, 0, 7⟩, 51234⟩ 80 plainRequest
    handling.delivery.isSome = true ∧ handling.outcome.response? = none := by
  refine ⟨rfl, fun hrefused => ?_, ?_⟩
  · exact absurd hrefused.1 (by decide)
  · decide +kernel

end HttpForwarder

end Gatehouse
