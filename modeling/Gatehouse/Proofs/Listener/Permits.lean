import Gatehouse.Listener.Binding
import Gatehouse.Proofs.Registry.Listing
import Gatehouse.Proofs.Startup.Environment

/-!
# Permits for the connections of a listener

A listener takes one permit for each connection that it may serve at the same time, and a semaphore
holds fewer permits than a word counts. The number comes from the environment and reaches every
listener unchanged, through the configuration, the router and the endpoint. The configuration raises
it to one, but bounds it only as a word, so between the two bounds there are environments that give
a configuration with which no listener can be bound.

## Main definitions

* `Endpoint.IsPrepared`: a proxy has a socket, what it presents to clients, and a forwarder.
* `Router.HasSettings`: a router and all its endpoints have the same settings.
* `Environment.AsksForTooMany`: more permits are asked for than a semaphore holds.

## Main results

* `Endpoint.outcome_bind_eq_tooManyPermits_iff`, `Endpoint.IsPrepared.outcome_bind`: what comes of
  binding a proxy that is prepared.
* `Router.Reached.hasSettings`, `Router.Reached.bind`: the settings of a router stay as they are.
* `Config.maxPermits_lt_iff`: which environments ask for too many permits.
* `Router.bind_of_environment`: which environments give settings that listeners can be bound with.
* `Router.refused_permits`: an environment of the other kind.
-/

namespace Gatehouse

/-! ### Binding -/

/-- A proxy has all that it needs but its permits: a socket, what it presents to clients if it
speaks TLS, and a forwarder. -/
structure Endpoint.IsPrepared (e : Endpoint) (p : Proxy) (issuer : Issuer) (asked : Nat)
    (sockets : Sockets) (address : SocketAddress) (tls : Option TlsServer)
    (forwarder : Forwarder) : Prop where
  socket : ∃ opened, sockets.bind p.bindAddress = .ok (address, opened)
  certificate : (e.listenerTls p.scheme issuer asked).1 = .ok tls
  target : Forwarder.create p e.host = .ok forwarder

namespace Endpoint

variable {e : Endpoint} {p : Proxy} {issuer : Issuer} {asked : Nat} {sockets : Sockets}
  {address : SocketAddress} {tls : Option TlsServer} {forwarder : Forwarder}

/-- A proxy that is prepared is bound unless it takes more permits than a semaphore holds. -/
theorem IsPrepared.outcome_bind
    (h : e.IsPrepared p issuer asked sockets address tls forwarder) :
    (e.bind p issuer asked sockets).outcome =
      if maxPermits < e.settings.maxConnections then .tooManyPermits
      else .bound ⟨p, address, tls, forwarder, e.settings.maxConnections⟩ := by
  obtain ⟨⟨opened, hsocket⟩, hcertificate, htarget⟩ := h
  rcases hlistener : e.listenerTls p.scheme issuer asked with ⟨result, certificates, asked'⟩
  rw [hlistener] at hcertificate
  obtain rfl : result = .ok tls := hcertificate
  simp only [Endpoint.bind, hsocket, hlistener, htarget]
  split_ifs <;> rfl

/-- Permits are taken last, so only a proxy that is prepared can want too many. -/
theorem outcome_bind_eq_tooManyPermits_iff :
    (e.bind p issuer asked sockets).outcome = .tooManyPermits ↔
      (∃ address tls forwarder, e.IsPrepared p issuer asked sockets address tls forwarder) ∧
        maxPermits < e.settings.maxConnections := by
  constructor
  · intro h
    unfold Endpoint.bind at h
    split at h
    next => cases h
    next address opened hsocket =>
      split at h
      next => cases h
      next tls certificates asked' hlistener =>
        split at h
        next => cases h
        next forwarder hforwarder =>
          split_ifs at h with hpermits
          exact ⟨⟨address, tls, forwarder, ⟨opened, hsocket⟩, by rw [hlistener], hforwarder⟩,
            hpermits⟩
  · rintro ⟨⟨address, tls, forwarder, hprepared⟩, hpermits⟩
    rw [hprepared.outcome_bind, if_pos hpermits]

/-- Binding asks for the certificate of the listener, or does not come so far. -/
theorem certificates_bind (e : Endpoint) (p : Proxy) (issuer : Issuer) (asked : Nat)
    (sockets : Sockets) :
    ((e.bind p issuer asked sockets).certificates, (e.bind p issuer asked sockets).asked) =
        (e.certificates, asked) ∨
      ((e.bind p issuer asked sockets).certificates, (e.bind p issuer asked sockets).asked) =
        (e.listenerTls p.scheme issuer asked).2 := by
  unfold Endpoint.bind
  cases sockets.bind p.bindAddress with
  | error cause => exact .inl rfl
  | ok opened =>
    rcases e.listenerTls p.scheme issuer asked with ⟨_ | tls, certificates, asked'⟩
    · exact .inr rfl
    · cases Forwarder.create p e.host with
      | error cause => exact .inr rfl
      | ok forwarder =>
        dsimp only
        split_ifs <;> exact .inr rfl

end Endpoint

namespace Router

/-! ### Settings -/

/-- A router and all its endpoints have the same settings. -/
structure HasSettings (r : Router) (settings : ProxySettings) : Prop where
  own : r.settings = settings
  endpoint {host : String} {e : Endpoint} (he : r.endpoint? host = some e) : e.settings = settings

variable {settings : ProxySettings} {done : List Registered} {r r' : Router} {host : String}

/-- Storing an endpoint with the same settings keeps the settings. -/
theorem HasSettings.stores (hr : r.HasSettings settings) {e : Endpoint}
    (hstores : r.Stores host e r') (he : e.settings = settings) : r'.HasSettings settings where
  own := hstores.settings_eq.trans hr.own
  endpoint {other f} hf := by
    by_cases hother : other = host
    · subst hother
      cases hstores.here.symm.trans hf
      exact he
    · exact hr.endpoint (hstores.elsewhere other hother ▸ hf)

/-- A call keeps the settings. -/
theorem Effect.hasSettings {c : RegistryCall} {answer : Option (Except RouterError Registered)}
    (h : r.Effect c answer r') (hr : r.HasSettings settings) : r'.HasSettings settings := by
  cases h with
  | endpointExists | unsupportedScheme | invalidListenPort | portConflict | unanswered => exact hr
  | endpointCreated _ hstores => exact hr.stores hstores hr.own
  | proxyCreated he _ _ hproxy hstores =>
    exact hr.stores hstores (hproxy.settings_eq.trans (hr.endpoint he))

/-- A router has the settings that it was created with. -/
theorem Reached.hasSettings (h : Reached settings done r) : r.HasSettings settings := by
  induction h with
  | create => exact ⟨rfl, fun he => by simp [Router.create, endpoint?] at he⟩
  | call _ c ih => exact (effect_call _ c).hasSettings ih
  | @certificate done r r' _ issuer host hostname answer hasked ih =>
    obtain ⟨e, he, heq⟩ := Option.map_eq_some_iff.1 hasked
    obtain ⟨-, rfl⟩ := Prod.mk.inj heq
    have hsettings := ih.endpoint he
    have hstored := ih.stores (stores_store r host
      { e with certificates := (e.certificates.obtain issuer r.asked hostname).2.1 }) hsettings
    exact ⟨hstored.own, hstored.endpoint⟩

/-- Binding a proxy does to the router no more than a request for a certificate does. -/
theorem Reached.bind (h : Reached settings done r) (host : String) (p : Proxy) (issuer : Issuer)
    (sockets : Sockets) : Reached settings done (r.bind host p issuer sockets).2.1 := by
  unfold Router.bind
  cases he : r.endpoint? host with
  | none => exact h
  | some e =>
    have hsame : Reached settings done
        { r.store host { e with certificates := e.certificates } with asked := r.asked } := by
      show Reached settings done (r.store host e)
      rw [store_of_endpoint? he]
      exact h
    dsimp only
    rcases e.certificates_bind p issuer r.asked sockets with heq | heq
    · obtain ⟨hcertificates, hasked⟩ := Prod.mk.inj heq
      rw [hcertificates, hasked]
      exact hsame
    · obtain ⟨hcertificates, hasked⟩ := Prod.mk.inj heq
      rw [hcertificates, hasked]
      unfold Endpoint.listenerTls
      cases p.scheme.offeredProtocols with
      | none => exact hsame
      | some protocols =>
        have hanswer : ∃ answer, r.certificate issuer host e.host = some (answer, _) :=
          ⟨_, by rw [Router.certificate, he]; rfl⟩
        obtain ⟨answer, hanswer⟩ := hanswer
        exact h.certificate hanswer

/-! ### Serving -/

/-- A proxy that wants too many permits is one whose router asks for too many. -/
theorem Reached.maxPermits_lt (h : Reached settings done r) {p : Proxy} {issuer : Issuer}
    {sockets : Sockets} (hbind : (r.bind host p issuer sockets).1 = .tooManyPermits) :
    maxPermits < settings.maxConnections := by
  unfold Router.bind at hbind
  split at hbind
  next => cases hbind
  next e he =>
    have hpermits := (Endpoint.outcome_bind_eq_tooManyPermits_iff.1 hbind).2
    rwa [h.hasSettings.endpoint he] at hpermits

theorem Reached.maxPermits_lt_of_bindEach (h : Reached settings done r) {issuer : Issuer}
    {sockets : Sockets} {proxies : List (String × Proxy)}
    (hmem : .tooManyPermits ∈ (r.bindEach issuer sockets proxies).1) :
    maxPermits < settings.maxConnections := by
  induction proxies generalizing r sockets with
  | nil => cases hmem
  | cons hp proxies ih =>
    rcases List.mem_cons.1 hmem with heq | hlater
    · exact h.maxPermits_lt heq.symm
    · exact ih (h.bind hp.1 hp.2 issuer sockets) hlater

/-- Serving breaks only if a proxy wants too many permits. -/
theorem mem_of_ofOutcomes {outcomes : List BindOutcome}
    (h : ServeOutcome.ofOutcomes outcomes = .broken) : .tooManyPermits ∈ outcomes := by
  unfold ServeOutcome.ofOutcomes at h
  split_ifs at h
  generalize hfind : List.findSome? _ outcomes = found at h
  cases found with
  | none => cases h
  | some outcome =>
    obtain rfl : outcome = .broken := h
    obtain ⟨x, hx, hfound⟩ := List.exists_of_findSome?_eq_some hfind
    cases x with
    | bound | failed => cases hfound
    | tooManyPermits => exact hx

theorem Reached.maxPermits_lt_of_serve (h : Reached settings done r) {issuer : Issuer}
    {sockets : Sockets} (hserve : (r.serve issuer sockets).1 = .broken) :
    maxPermits < settings.maxConnections :=
  h.maxPermits_lt_of_bindEach (mem_of_ofOutcomes hserve)

end Router

/-! ### Environments -/

/-- The number of connections is set to one beyond what a semaphore holds. -/
def Environment.AsksForTooMany (env : Environment) : Prop :=
  ∃ value n, env "ROUTER_MAX_CONNECTIONS" = some value ∧ Numeral.Denotes value.toList n ∧
    maxPermits < n

/-- A configuration takes more permits than a semaphore holds just if its environment asks for
that. -/
theorem Config.maxPermits_lt_iff {env : Environment} {config : Config}
    (h : Config.ofEnvironment env = .ok config) :
    maxPermits < config.maxConnections ↔ env.AsksForTooMany := by
  obtain ⟨file, given, -, hgiven, rfl⟩ := Config.ofEnvironment_eq_ok_iff.1 h
  have hconnections := hgiven .maxConnections
  have hraised (n : Nat) : maxPermits < max 1 n ↔ maxPermits < n := by
    have hone : ¬ maxPermits < 1 := by decide
    omega
  show maxPermits < max 1 ((given .maxConnections).getD 10000) ↔ _
  rw [hraised, Environment.AsksForTooMany]
  unfold Environment.Gives at hconnections
  split at hconnections
  next hnone =>
    rw [hconnections]
    refine iff_of_false (by decide) ?_
    rintro ⟨value, n, hvalue, -⟩
    cases hnone.symm.trans hvalue
  next value hvalue =>
    obtain ⟨n, -, hdenotes, heq⟩ := hconnections
    rw [heq, Option.getD_some]
    refine ⟨fun hlt => ⟨value, n, hvalue, hdenotes, hlt⟩, ?_⟩
    rintro ⟨value', n', hvalue', hdenotes', hlt⟩
    cases hvalue.symm.trans hvalue'
    exact hdenotes.unique hdenotes' ▸ hlt

namespace Router

/-- Which environments give settings that listeners can be bound with, for every environment that
gives a configuration, and every router that runs with its settings.

A listener serves at least one connection. A proxy that has a socket, a certificate if it needs one
and a forwarder is bound, with as many permits as the configuration says, unless the environment
asks for more than a semaphore holds; then it is not bound. Nothing else keeps such a proxy from
being bound, and unless the environment asks for too many permits the router never breaks. -/
theorem bind_of_environment {env : Environment} {config : Config}
    (h : Config.ofEnvironment env = .ok config) {done : List Registered} {r : Router}
    (hr : Reached config.proxySettings done r) :
    1 ≤ config.maxConnections ∧
    (∀ host e p issuer sockets address tls forwarder, r.endpoint? host = some e →
      e.IsPrepared p issuer r.asked sockets address tls forwarder →
      (r.bind host p issuer sockets).1 =
          .bound ⟨p, address, tls, forwarder, config.maxConnections⟩ ∧
        ¬ env.AsksForTooMany ∨
      (r.bind host p issuer sockets).1 = .tooManyPermits ∧ env.AsksForTooMany) ∧
    (∀ host p issuer sockets, (r.bind host p issuer sockets).1 = .tooManyPermits →
      env.AsksForTooMany ∧ ∃ e address tls forwarder, r.endpoint? host = some e ∧
        e.IsPrepared p issuer r.asked sockets address tls forwarder) ∧
    (¬ env.AsksForTooMany → ∀ issuer sockets, (r.serve issuer sockets).1 ≠ .broken) := by
  have hasks : maxPermits < config.proxySettings.maxConnections ↔ env.AsksForTooMany :=
    Config.maxPermits_lt_iff h
  refine ⟨?_, ?_, ?_, fun hfew issuer sockets hbroken =>
    hfew (hasks.1 (hr.maxPermits_lt_of_serve hbroken))⟩
  · obtain ⟨file, given, -, -, rfl⟩ := Config.ofEnvironment_eq_ok_iff.1 h
    exact Nat.le_max_left 1 _
  · intro host e p issuer sockets address tls forwarder he hprepared
    have hbind : (r.bind host p issuer sockets).1 = (e.bind p issuer r.asked sockets).outcome := by
      simp only [Router.bind, he]
    rw [hbind, hprepared.outcome_bind, hr.hasSettings.endpoint he, ← hasks]
    split_ifs with hpermits
    · exact .inr ⟨rfl, hpermits⟩
    · exact .inl ⟨rfl, hpermits⟩
  · intro host p issuer sockets hbind
    refine ⟨hasks.1 (hr.maxPermits_lt hbind), ?_⟩
    unfold Router.bind at hbind
    split at hbind
    next => cases hbind
    next e he =>
      obtain ⟨⟨address, tls, forwarder, hprepared⟩, -⟩ :=
        Endpoint.outcome_bind_eq_tooManyPermits_iff.1 hbind
      exact ⟨e, address, tls, forwarder, he, hprepared⟩

/-- An environment that names an endpoints file and sets the number of connections. -/
def crowdedEnvironment (connections : String) : Environment := fun name =>
  if name = "ROUTER_CONFIG" then some "router.json"
  else if name = "ROUTER_MAX_CONNECTIONS" then some connections
  else none

/-- The configuration of such an environment. -/
def crowdedConfig (connections : Nat) : Config :=
  ⟨"router.json", none, "info", connections, 2000, none⟩

/-- A router with its settings and one endpoint. -/
def crowdedRouter (connections : Nat) : Router :=
  ((create (crowdedConfig connections).proxySettings).call (.createEndpoint "a.test")).2

theorem reached_crowdedRouter (connections : Nat) :
    Reached (crowdedConfig connections).proxySettings [.endpoint "a.test"]
      (crowdedRouter connections) :=
  Reached.create.call (.createEndpoint "a.test")

/-- A proxy that listens on the loopback and forwards bytes. -/
def loopbackProxy : Proxy where
  listen := ⟨"tcp", some ⟨"", none, some (.v4 ⟨127, 0, 0, 1⟩), some 8080⟩, "", none, none⟩
  target := ⟨"tcp", some ⟨"", none, some (.v4 ⟨127, 0, 0, 1⟩), some 9000⟩, "", none, none⟩
  scheme := .tcp
  port := 8080

/-- The endpoint of this router has all that the listener needs but its permits. -/
theorem isPrepared_loopbackProxy (connections : Nat) (issuer : Issuer) :
    (Endpoint.create "a.test" (crowdedConfig connections).proxySettings).IsPrepared
      loopbackProxy issuer 0 .isolated ⟨.v4 ⟨127, 0, 0, 1⟩, 8080⟩ none
      (.bytes loopbackProxy.target) where
  socket := by
    have hsocket : (Sockets.isolated.bind loopbackProxy.bindAddress).map Prod.fst =
        .ok ⟨.v4 ⟨127, 0, 0, 1⟩, 8080⟩ := by decide +kernel
    obtain ⟨⟨address, opened⟩, hopened, rfl⟩ := exists_of_map_eq_ok hsocket
    exact ⟨opened, hopened⟩
  certificate := rfl
  target := rfl

/-- With the greatest number of permits that a semaphore holds, the listener is bound. -/
theorem bind_of_environment_greatest :
    Config.ofEnvironment (crowdedEnvironment "2305843009213693951") =
        .ok (crowdedConfig 2305843009213693951) ∧
      ((crowdedRouter 2305843009213693951).bind "a.test" loopbackProxy
          (Issuer.local "authority") .isolated).1 =
        .bound ⟨loopbackProxy, ⟨.v4 ⟨127, 0, 0, 1⟩, 8080⟩, none, .bytes loopbackProxy.target,
          2305843009213693951⟩ := by
  have h : Config.ofEnvironment (crowdedEnvironment "2305843009213693951") =
      .ok (crowdedConfig 2305843009213693951) := by decide +kernel
  have hfew : ¬ (crowdedEnvironment "2305843009213693951").AsksForTooMany := by
    rw [← Config.maxPermits_lt_iff h]
    decide
  obtain ⟨-, hprepared, -⟩ := bind_of_environment h (reached_crowdedRouter 2305843009213693951)
  rcases hprepared "a.test" _ loopbackProxy (Issuer.local "authority") .isolated _ _ _ rfl
    (isPrepared_loopbackProxy _ _) with ⟨hbound, -⟩ | ⟨-, hmany⟩
  · exact ⟨h, hbound⟩
  · exact absurd hmany hfew

/-- With one permit more the environment still gives a configuration, and the listener has all
else that it needs, but it is not bound. -/
theorem refused_permits :
    ∃ config done r e address tls forwarder,
      Config.ofEnvironment (crowdedEnvironment "2305843009213693952") = .ok config ∧
      Reached config.proxySettings done r ∧ r.endpoint? "a.test" = some e ∧
      e.IsPrepared loopbackProxy (Issuer.local "authority") r.asked .isolated address tls
        forwarder ∧
      (r.bind "a.test" loopbackProxy (Issuer.local "authority") .isolated).1 =
        .tooManyPermits := by
  refine ⟨crowdedConfig 2305843009213693952, _, _, _, _, _, _, by decide +kernel,
    reached_crowdedRouter _, rfl, isPrepared_loopbackProxy _ _, ?_⟩
  decide +kernel

end Router

end Gatehouse
