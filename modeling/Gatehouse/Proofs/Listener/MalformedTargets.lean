import Gatehouse.Listener.Binding
import Gatehouse.Proofs.Forwarding.Security
import Gatehouse.Proofs.Listener.Transfers

/-!
# Where a malformed target is found

A target in the rack is malformed if its path names no workload. A listener for requests is not
bound with such a target, and once it is bound, no request that it handles fails because of the
target: the path is parsed again for every request, with the same success. A listener for bytes is
bound with any target. Each of its connections then fails with what is wrong with the path, is
counted as a failure of the backend, and asks the rack for nothing.

## Main definitions

* `Url.IsMalformed`: what is wrong with a target in the rack.

## Main results

* `Surroundings.connect_eq_target_iff`: connecting fails because of the target just if it is
  malformed.
* `HttpForwarder.outcome_eq_target_iff`: and so does a request.
* `Endpoint.outcome_bind_eq_failed_iff`, `Forwarder.create_eq_error_iff`: binding a listener fails
  as its forwarder does, and the forwarder of a listener for bytes accepts every target.
* `ByteService.stats_of_malformed`: the connections to a malformed target.
* `Endpoint.targets_of_bind`: where a malformed target is found.
-/

namespace Gatehouse

/-- The target stands in the rack, and its path is rejected with the given error. -/
def Url.IsMalformed (target : Url) (cause : TargetError) : Prop :=
  target.isRackTarget = true ∧ target.rackTarget = .error cause

/-! ### Connecting -/

namespace Surroundings

variable {σ τ : Type} {w : Surroundings σ τ} {s : σ} {target : Url} {draws : Draws}
  {cause : TargetError}

/-- An attempt to connect to a malformed target ends before it asks for anything. -/
theorem connect_of_isMalformed (h : target.IsMalformed cause) :
    w.connect s target draws = ⟨.error (.target cause), [], 0⟩ :=
  (Course.rejected h.1 h.2).eq_connect.symm

/-- An attempt to connect fails because of the target just if it is malformed. -/
theorem connect_eq_target_iff :
    (w.connect s target draws).result = .error (.target cause) ↔ target.IsMalformed cause := by
  constructor
  · intro h
    generalize hx : w.connect s target draws = x at h
    have hcourse := hx ▸ course_of_connect w s target draws
    cases hcourse with
    | rejected hrack hpath =>
      cases h
      exact ⟨hrack, hpath⟩
    | unlisted | listPending | empty | tunnelled | untunnelled | tunnelPending | resource |
      noResource | resourcePending | hostless | portless | dialled | unreached => cases h
  · intro h
    rw [connect_of_isMalformed h]

end Surroundings

theorem Resolver.connect_eq_target_iff {τ : Type} {resolver : Resolver τ} {target : Url}
    {draws : Draws} {cause : TargetError} :
    (resolver.connect target draws).result = .error (.target cause) ↔ target.IsMalformed cause :=
  Surroundings.connect_eq_target_iff

/-! ### Requests -/

theorem ServerName.parse_ne_target {host : String} {cause : TargetError} :
    parse host ≠ .error (.target cause) := by
  unfold parse
  split
  next => nofun
  next => split <;> nofun

theorem TlsPeer.begin_ne_target {peer : TlsPeer} {client : TlsClient} {cause : TargetError} :
    peer.begin client ≠ .error (.target cause) := by
  cases peer with
  | plain | fails | silent => nofun
  | speaks server =>
    unfold TlsPeer.begin
    dsimp only
    split <;> nofun

theorem BackendServer.secure_ne_target {s : BackendServer} {security : HopSecurity}
    {cause : TargetError} : s.secure security ≠ .error (.target cause) := by
  unfold secure
  split
  next => nofun
  next =>
    split
    next hname =>
      rintro ⟨⟩
      exact ServerName.parse_ne_target hname
    next => exact TlsPeer.begin_ne_target

namespace HttpForwarder

section

variable {τ : Type} {f : HttpForwarder} {resolver : Resolver τ}
  {servers : BackendStream τ → BackendServer} {draws : Draws} {key : Bytes} {peer : SocketAddress}
  {port : Nat} {forwarded : Forwarded} {r : Request} {cause : TargetError}

/-- Of all layers only connecting may find that a target is malformed. -/
theorem failure_target_iff :
    f.Failure resolver servers draws key forwarded r (.target cause) ↔
      f.target.IsMalformed cause := by
  constructor
  · intro h
    cases h with
    | unreached hconnect => exact Resolver.connect_eq_target_iff.1 hconnect
    | unsecured _ hsecure => exact absurd hsecure BackendServer.secure_ne_target
  · intro h
    exact .unreached (Resolver.connect_eq_target_iff.2 h)

/-- A request fails because of the target just if it is taken up and the target is malformed. -/
theorem outcome_eq_target_iff :
    (f.handle resolver servers draws key peer port r).outcome = .failed (.target cause) ↔
      ¬ r.IsRefused ∧ f.target.IsMalformed cause := by
  constructor
  · intro h
    rcases outcome_cases f resolver servers draws key peer port r with
      ⟨-, text, houtcome⟩ | ⟨htaken, e, hfailure, houtcome⟩ | ⟨-, -, houtcome⟩ |
      ⟨-, _, _, response, early, -, hplain, hwebSocket⟩
    · cases h.symm.trans houtcome
    · cases h.symm.trans houtcome
      exact ⟨htaken, failure_target_iff.1 hfailure⟩
    · cases h.symm.trans houtcome
    · cases hasks : asksForWebSocket r.method r.headers with
      | true =>
        obtain ⟨accept, houtcome⟩ := hwebSocket hasks
        cases h.symm.trans houtcome
      | false => cases h.symm.trans (hplain hasks)
  · rintro ⟨htaken, h⟩
    exact outcome_of_failure htaken (failure_target_iff.2 h)

end

/-- There are no settings for a malformed target, and for any other one there are. -/
theorem create_eq_error_iff {listen target : Url} {host : String} {e : RouterError} :
    create listen target host = .error e ↔
      ∃ cause, e = .target cause ∧ target.IsMalformed cause := by
  unfold create Url.IsMalformed
  dsimp only
  split
  next hrack =>
    split
    next cause hpath => simp [hrack, hpath, eq_comm]
    next hpath => simp [hpath]
  next hrack => simp [hrack]

/-- So no settings are for a malformed target. -/
theorem not_isMalformed_of_create {listen target : Url} {host : String} {f : HttpForwarder}
    (h : create listen target host = .ok f) (cause : TargetError) :
    ¬ f.target.IsMalformed cause := by
  obtain ⟨htarget, -⟩ := eq_of_create h
  intro hmalformed
  have hnone : create listen target host = .error (.target cause) :=
    create_eq_error_iff.2 ⟨cause, rfl, htarget ▸ hmalformed⟩
  cases hnone.symm.trans h

end HttpForwarder

/-! ### Binding -/

theorem Forwarder.create_eq_error_iff {p : Proxy} {host : String} {e : RouterError} :
    create p host = .error e ↔
      p.scheme.isHttp = true ∧ ∃ cause, e = .target cause ∧ p.target.IsMalformed cause := by
  unfold create
  split
  next hhttp =>
    have hiff := @HttpForwarder.create_eq_error_iff p.listen p.target host e
    rw [← hiff]
    cases HttpForwarder.create p.listen p.target host <;> simp [Except.map, hhttp]
  next hbytes => simp [hbytes]

namespace Endpoint

variable {e : Endpoint} {p : Proxy} {issuer : Issuer} {asked : Nat} {sockets opened : Sockets}
  {address : SocketAddress} {tls : Option TlsServer} {l : ProxyListener}

/-- With a socket and a certificate, binding fails just if there are no settings. -/
theorem outcome_bind_eq_failed_iff (hsocket : sockets.bind p.bindAddress = .ok (address, opened))
    (hcertificate : (e.listenerTls p.scheme issuer asked).1 = .ok tls) {cause : RouterError} :
    (e.bind p issuer asked sockets).outcome = .failed cause ↔
      Forwarder.create p e.host = .error cause := by
  rcases hlistener : e.listenerTls p.scheme issuer asked with ⟨result, certificates, asked'⟩
  rw [hlistener] at hcertificate
  obtain rfl : result = .ok tls := hcertificate
  simp only [bind, hsocket, hlistener]
  cases Forwarder.create p e.host with
  | error cause' => simp
  | ok forwarder => split_ifs <;> simp

/-- A listener that has been bound forwards as its proxy says. -/
theorem forwarder_of_bind (h : (e.bind p issuer asked sockets).outcome = .bound l) :
    Forwarder.create p e.host = .ok l.forwarder := by
  unfold bind at h
  split at h
  next => cases h
  next =>
    split at h
    next => cases h
    next =>
      split at h
      next => cases h
      next hforwarder =>
        split_ifs at h
        cases h
        exact hforwarder

/-- A listener for requests that has been bound has settings. -/
theorem exists_settings_of_bind (hhttp : p.scheme.isHttp = true)
    (h : (e.bind p issuer asked sockets).outcome = .bound l) :
    ∃ f, l.forwarder = .http f ∧ HttpForwarder.create p.listen p.target e.host = .ok f := by
  have hforwarder := forwarder_of_bind h
  rw [Forwarder.create, if_pos hhttp] at hforwarder
  cases hcreate : HttpForwarder.create p.listen p.target e.host with
  | error cause =>
    rw [hcreate] at hforwarder
    cases hforwarder
  | ok f =>
    rw [hcreate] at hforwarder
    exact ⟨f, (Except.ok.inj hforwarder).symm, rfl⟩

/-- A listener for bytes is bound or not without regard to its target. -/
theorem failed_bind_of_target (hbytes : p.scheme.isHttp = false) {cause : RouterError}
    (h : (e.bind p issuer asked sockets).outcome = .failed cause) (target : Url) :
    (e.bind { p with target } issuer asked sockets).outcome = .failed cause := by
  have haddress : ({ p with target } : Proxy).bindAddress = p.bindAddress := rfl
  simp only [bind, haddress, Forwarder.create, hbytes, Bool.false_eq_true, if_false] at h ⊢
  cases hsocket : sockets.bind p.bindAddress with
  | error cause' =>
    rw [hsocket] at h
    exact h
  | ok opened =>
    rcases hlistener : e.listenerTls p.scheme issuer asked with ⟨_ | tls, certificates, asked'⟩
    · simp only [hsocket, hlistener] at h
      exact h
    · simp only [hsocket, hlistener] at h
      split_ifs at h

end Endpoint

/-! ### Connections to a malformed target -/

namespace ByteTask

/-- The forwarding of the connection has ended. -/
def isEnded {α β : Type} : ByteTask α β → Bool
  | .ended _ => true
  | _ => false

/-- Connections that have failed alike have added as much as one of them, as often as there are
some. -/
theorem sum_share_of_forall {α β : Type} {ts : List (ByteTask α β)} {x : ByteForwarding}
    (h : ∀ t ∈ ts, (∃ client, t = .connecting client) ∨ t = .ended x)
    (counter : ForwardingCounter) :
    (ts.map (·.share counter)).sum = ts.countP (·.isEnded) * x.share counter := by
  induction ts with
  | nil => exact (Nat.zero_mul _).symm
  | cons t ts ih =>
    have hrest := ih fun t' ht' => h t' (List.mem_cons_of_mem _ ht')
    rw [List.map_cons, List.sum_cons, List.countP_cons, hrest]
    rcases h t List.mem_cons_self with ⟨client, rfl⟩ | rfl
    · simp [share, isEnded]
    · have hended : (ended x : ByteTask α β).isEnded = true := rfl
      rw [if_pos hended, Nat.succ_mul]
      exact Nat.add_comm _ _

variable {τ α β : Type} [ByteStream α] [ByteStream β] {target : Url} {t : ByteTask α β}
  {cause : TargetError}

/-- A connection to a malformed target ends when it is to be connected. -/
theorem step_of_isMalformed (h : target.IsMalformed cause) (c : ByteCircumstances τ β) (client : α)
    (counters : ListenerStats) :
    step target counters (.connecting client) (.connect c) =
      some (counters.addBackendFailure, .ended (.unreached (.target cause))) := by
  simp only [step, Resolver.connect_eq_target_iff.2 h]

/-- A connection to a malformed target comes no further than to its failure. -/
theorem IsSound.of_isMalformed (h : target.IsMalformed cause) (ht : t.IsSound τ target) :
    (∃ client, t = .connecting client) ∨ t = .ended (.unreached (.target cause)) := by
  have hfails (c : ByteCircumstances τ β) :
      (c.resolver.connect target c.draws).result = .error (.target cause) :=
    Resolver.connect_eq_target_iff.2 h
  cases ht with
  | connecting client => exact .inl ⟨client, rfl⟩
  | @pumping c _ _ _ _ hconnect => cases (hfails c).symm.trans hconnect
  | counting hx =>
    cases hx with
    | @pumped c _ _ _ _ _ hconnect => cases (hfails c).symm.trans hconnect
  | ended hx =>
    cases hx with
    | @unreached c e hconnect =>
      cases (hfails c).symm.trans hconnect
      exact .inr rfl
    | @pumped c _ _ _ _ _ hconnect => cases (hfails c).symm.trans hconnect

end ByteTask

/-- The connections of a listener for bytes with a malformed target fail one by one, each with what
is wrong with the target, and nothing but these failures is counted. -/
theorem ByteService.stats_of_malformed {τ α β : Type} [ByteStream α] [ByteStream β] {target : Url}
    {cause : TargetError} (h : target.IsMalformed cause) {initial : ListenerStats}
    {events : List (ByteServiceEvent τ α β)} {s : ByteService α β}
    (hrun : (start initial).run target events = some s) :
    (∀ t ∈ s.tasks, (∃ client, t = .connecting client) ∨
      t = .ended (.unreached (.target cause))) ∧
    s.stats = { initial with
      backendFailed := initial.backendFailed + UInt64.ofNat (s.tasks.countP (·.isEnded)) } := by
  have hall : ∀ t ∈ s.tasks, (∃ client, t = .connecting client) ∨
      t = .ended (.unreached (.target cause)) :=
    fun t ht => (isSound_of_run hrun t ht).of_isMalformed h
  have haccounts := accounts_of_run hrun
  refine ⟨hall, ListenerStats.eq_of_value_eq haccounts.connections fun counter => ?_⟩
  rw [haccounts.value counter, share, ByteTask.sum_share_of_forall hall]
  cases counter with
  | backendFailed =>
    rw [ByteForwarding.share, Nat.mul_one]
    rfl
  | bytesToBackend | bytesFromBackend => exact UInt64.add_zero _

/-! ### Malformed targets -/

/-- Where a malformed target is found, for every target.

A listener for requests that has a socket and a certificate is not bound just if its target is
malformed, and reports what is wrong with it. No request that a listener handles once it is bound
fails because of the target, and a service in the target has a port.

A listener for bytes is bound or not in the same way with every target. With a malformed one, each
attempt to connect fails with what is wrong with it, asks for nothing, and is counted once. -/
theorem Endpoint.targets_of_bind (e : Endpoint) (p : Proxy) (issuer : Issuer) (asked : Nat)
    (sockets : Sockets) :
    let outcome (p : Proxy) := (e.bind p issuer asked sockets).outcome
    (p.scheme.isHttp = true →
      (∀ address opened tls, sockets.bind p.bindAddress = .ok (address, opened) →
        (e.listenerTls p.scheme issuer asked).1 = .ok tls → ∀ cause,
          (outcome p = .failed (.target cause) ↔ p.target.IsMalformed cause)) ∧
      ∀ l, outcome p = .bound l → ∃ f, l.forwarder = .http f ∧ f.target = p.target ∧
        (∀ workload, f.target.rackTarget = .ok workload → workload.kind = .service →
          ∃ port, workload.port = some port) ∧
        ∀ (τ : Type) (resolver : Resolver τ) (servers : BackendStream τ → BackendServer)
          (draws : Draws) (key : Bytes) (peer : SocketAddress) (port : Nat) (r : Request)
          (cause : TargetError),
          (f.handle resolver servers draws key peer port r).outcome ≠ .failed (.target cause)) ∧
    (p.scheme.isHttp = false →
      (∀ cause, outcome p = .failed cause → ∀ target, outcome { p with target } = .failed cause) ∧
      (∀ l, outcome p = .bound l → l.forwarder = .bytes p.target) ∧
      ∀ cause, p.target.IsMalformed cause → ∀ (τ α β : Type) [ByteStream α] [ByteStream β],
        (∀ (c : ByteCircumstances τ β) (client : α) (counters : ListenerStats),
          c.resolver.connect p.target c.draws = ⟨.error (.target cause), [], 0⟩ ∧
          ByteTask.step p.target counters (.connecting client) (.connect c) =
            some (counters.addBackendFailure, .ended (.unreached (.target cause)))) ∧
        ∀ (initial : ListenerStats) (events : List (ByteServiceEvent τ α β)) (s : ByteService α β),
          (ByteService.start initial).run p.target events = some s →
          (∀ t ∈ s.tasks, (∃ client, t = .connecting client) ∨
            t = .ended (.unreached (.target cause))) ∧
          s.stats = { initial with
            backendFailed :=
              initial.backendFailed + UInt64.ofNat (s.tasks.countP (·.isEnded)) }) := by
  intro outcome
  refine ⟨fun hhttp => ⟨?_, fun l hl => ?_⟩, fun hbytes => ⟨?_, fun l hl => ?_, ?_⟩⟩
  · intro address opened tls hsocket hcertificate cause
    rw [outcome_bind_eq_failed_iff hsocket hcertificate, Forwarder.create_eq_error_iff]
    simp [hhttp]
  · obtain ⟨f, hforwarder, hcreate⟩ := exists_settings_of_bind hhttp hl
    obtain ⟨htarget, -⟩ := HttpForwarder.eq_of_create hcreate
    refine ⟨f, hforwarder, htarget, fun _ hpath hkind => ?_, ?_⟩
    · exact Target.exists_port_of_parse hpath hkind
    · intro τ resolver servers draws key peer port r cause hfailed
      exact HttpForwarder.not_isMalformed_of_create hcreate cause
        (HttpForwarder.outcome_eq_target_iff.1 hfailed).2
  · exact fun cause hfailed target => failed_bind_of_target hbytes hfailed target
  · have hforwarder := forwarder_of_bind hl
    rw [Forwarder.create, if_neg (by simp [hbytes])] at hforwarder
    exact (Except.ok.inj hforwarder).symm
  · intro cause hmalformed τ α β _ _
    refine ⟨fun c client counters => ?_, fun initial events s hrun => ?_⟩
    · exact ⟨Surroundings.connect_of_isMalformed hmalformed,
        ByteTask.step_of_isMalformed hmalformed c client counters⟩
    · exact ByteService.stats_of_malformed hmalformed hrun

/-- A proxy whose target is in the rack and names a service without a port. -/
def portlessProxy (scheme : ListenScheme) : Proxy where
  listen := ⟨"tcp", some ⟨"", none, some (.v4 ⟨127, 0, 0, 1⟩), some 8080⟩, "", none, none⟩
  target := ⟨"http", some ⟨"", none, some (.name "rack"), none⟩, "/app/service/web", none, none⟩
  scheme := scheme
  port := 8080

/-- With this target a listener for requests is not bound, and one for bytes is. -/
theorem Endpoint.targets_of_bind_portless :
    let e := Endpoint.create "a.test" ⟨1, 2000, none⟩
    let issuer : Issuer := fun _ _ => .error (.issuanceFailure "a.test" "none")
    (e.bind (portlessProxy .http) issuer 0 .isolated).outcome =
        .failed (.target (.malformedSelector "service" "web")) ∧
      ∃ l, (e.bind (portlessProxy .tcp) issuer 0 .isolated).outcome = .bound l ∧
        l.forwarder = .bytes (portlessProxy .tcp).target := by
  intro e issuer
  obtain ⟨hrequests, -⟩ := targets_of_bind e (portlessProxy .http) issuer 0 .isolated
  obtain ⟨-, hbytes⟩ := targets_of_bind e (portlessProxy .tcp) issuer 0 .isolated
  have hmalformed : (portlessProxy .http).target.IsMalformed (.malformedSelector "service" "web") :=
    ⟨by decide +kernel, by decide +kernel⟩
  have hsocket : (Sockets.isolated.bind (portlessProxy .http).bindAddress).toOption.isSome =
      true := by decide +kernel
  have hbound : (e.bind (portlessProxy .tcp) issuer 0 .isolated).outcome =
      .bound ⟨portlessProxy .tcp, ⟨.v4 ⟨127, 0, 0, 1⟩, 8080⟩, none,
        .bytes (portlessProxy .tcp).target, 1⟩ := by decide +kernel
  refine ⟨?_, _, hbound, (hbytes rfl).2.1 _ hbound⟩
  cases hopened : Sockets.isolated.bind (portlessProxy .http).bindAddress with
  | error cause =>
    rw [hopened] at hsocket
    cases hsocket
  | ok x => exact ((hrequests rfl).1 x.1 x.2 none hopened rfl _).2 hmalformed

end Gatehouse
