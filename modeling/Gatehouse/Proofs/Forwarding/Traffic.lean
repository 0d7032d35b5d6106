import Gatehouse.Proofs.Forwarding.Failures

/-!
# What passes over a hop

A request is handled over at most one hop. Nothing passes if the hop is not opened; otherwise there
is the session that was begun, if the hop is secured, and the backend receives the request that is
sent, or nothing.

## Main definitions

* `HttpForwarder.Traffic` : the session with the backend and what the backend receives.

## Main results

* `HttpForwarder.traffic_of_handle` : what passes for a request.
* `HttpForwarder.Traffic.exists_secured` : where a session comes from.
* `HttpForwarder.Traffic.exists_sent`, `HttpForwarder.exists_sent_of_delivery` : where a delivery
  comes from.
-/

namespace Gatehouse

/-- A backend receives the delivery of the request that is sent. -/
theorem Hop.deliver_of_delivery {hop : Hop} {request : Request} {delivery : Delivery}
    (h : (hop.exchange request).delivery = some delivery) :
    request.deliver = some delivery := by
  unfold exchange Exchange.failed at h
  split at h
  next => cases h
  next =>
    split at h
    next => exact h
    next =>
      split at h
      next => cases h
      next sent hsent =>
        split at h
        next => cases h
        next => exact hsent.trans h

namespace HttpForwarder

variable {τ : Type}

/-- The session with the backend and what the backend receives. -/
inductive Traffic (f : HttpForwarder) (resolver : Resolver τ)
    (servers : BackendStream τ → BackendServer) (draws : Draws) (key : Bytes)
    (forwarded : Forwarded) (r : Request) : Option TlsSession → Option Delivery → Prop
  /-- No hop is opened. -/
  | unopened : Traffic f resolver servers draws key forwarded r none none
  /-- Nothing can be sent over the hop. -/
  | unsent {hop : Hop}
      (hopened : (resolver.openHop servers f.target (f.securityFor r) draws).result = .ok hop) :
      Traffic f resolver servers draws key forwarded r hop.session none
  | sent {hop : Hop} {request : Request}
      (hopened : (resolver.openHop servers f.target (f.securityFor r) draws).result = .ok hop)
      (hsent : f.sent? forwarded key r = some request) :
      Traffic f resolver servers draws key forwarded r hop.session
        (hop.exchange request).delivery

variable {f : HttpForwarder} {resolver : Resolver τ} {servers : BackendStream τ → BackendServer}
  {draws : Draws} {key : Bytes} {forwarded : Forwarded} {r : Request}

/-- What passes for a plain request. -/
theorem traffic_of_handlePlain (hasks : asksForWebSocket r.method r.headers = false) :
    f.Traffic resolver servers draws key forwarded r
      (f.handlePlain resolver servers draws forwarded r).session
      (f.handlePlain resolver servers draws forwarded r).delivery := by
  have hsecurity : f.securityFor r = f.requestSecurity := by simp [securityFor, hasks]
  unfold handlePlain
  dsimp only
  split
  next => exact .unopened
  next => exact .unopened
  next hop hopened =>
    rw [← hsecurity] at hopened
    have hsent : f.sent? forwarded key r = some (f.outbound forwarded r) := by
      simp [sent?, hasks]
    split
    all_goals exact .sent hopened hsent

/-- What passes for a request for WebSocket. -/
theorem traffic_of_handleWebSocket (hasks : asksForWebSocket r.method r.headers = true) :
    f.Traffic resolver servers draws key forwarded r
      (f.handleWebSocket resolver servers draws key forwarded r).session
      (f.handleWebSocket resolver servers draws key forwarded r).delivery := by
  have hsecurity : f.securityFor r = f.webSocketSecurity := by simp [securityFor, hasks]
  unfold handleWebSocket
  dsimp only
  split
  next => exact .unopened
  next =>
    split
    next => exact .unopened
    next => exact .unopened
    next hop hopened =>
      rw [← hsecurity] at hopened
      split
      next => exact .unsent hopened
      next request hrequest =>
        have hsent : f.sent? forwarded key r = some request := by simp [sent?, hasks, hrequest]
        split
        next => exact .sent hopened hsent
        next => exact .sent hopened hsent
        next =>
          split
          all_goals exact .sent hopened hsent

/-- What passes for a request. -/
theorem traffic_of_handle (f : HttpForwarder) (resolver : Resolver τ)
    (servers : BackendStream τ → BackendServer) (draws : Draws) (key : Bytes)
    (peer : SocketAddress) (port : Nat) (r : Request) :
    f.Traffic resolver servers draws key ⟨peer, port, f.listenScheme⟩ r
      (f.handle resolver servers draws key peer port r).session
      (f.handle resolver servers draws key peer port r).delivery := by
  unfold handle
  dsimp only
  split
  next hasks => exact traffic_of_handleWebSocket hasks
  next hasks => exact traffic_of_handlePlain (Bool.eq_false_iff.2 hasks)

/-- A session is one that a server has begun as the hop is to be secured. -/
theorem Traffic.exists_secured {session : TlsSession} {delivery : Option Delivery}
    (h : f.Traffic resolver servers draws key forwarded r (some session) delivery) :
    ∃ stream, (resolver.connect f.target draws).result = .ok stream ∧
      (resolver.met servers stream).secure (f.securityFor r) = .ok (some session) := by
  generalize hsession : some session = begun at h
  cases h with
  | unopened => cases hsession
  | unsent hopened | sent hopened =>
    obtain ⟨stream, hconnect, hsecure, -⟩ := Resolver.openHop_eq_ok_iff.1 hopened
    exact ⟨stream, hconnect, hsession ▸ hsecure⟩

/-- What a backend receives is the delivery of the request that is sent, over a hop that is secured
as it is to be. -/
theorem Traffic.exists_sent {session : Option TlsSession} {delivery : Delivery}
    (h : f.Traffic resolver servers draws key forwarded r session (some delivery)) :
    ∃ stream request, (resolver.met servers stream).secure (f.securityFor r) = .ok session ∧
      f.sent? forwarded key r = some request ∧ request.deliver = some delivery := by
  generalize hreceived : some delivery = received at h
  cases h with
  | unopened | unsent => cases hreceived
  | @sent hop request hopened hsent =>
    obtain ⟨stream, -, hsecure, -⟩ := Resolver.openHop_eq_ok_iff.1 hopened
    have hdeliver := Hop.deliver_of_delivery hreceived.symm
    exact ⟨stream, request, hsecure, hsent, hdeliver.trans hreceived⟩

/-- What a backend receives for a request is the delivery of what is sent for it. -/
theorem exists_sent_of_delivery {peer : SocketAddress} {port : Nat} {delivery : Delivery}
    (hdelivery : (f.handle resolver servers draws key peer port r).delivery = some delivery) :
    ∃ request, f.sent? ⟨peer, port, f.listenScheme⟩ key r = some request ∧
      request.deliver = some delivery := by
  have htraffic := traffic_of_handle f resolver servers draws key peer port r
  rw [hdelivery] at htraffic
  obtain ⟨_, request, -, hsent, hdeliver⟩ := htraffic.exists_sent
  exact ⟨request, hsent, hdeliver⟩

end HttpForwarder

end Gatehouse
