import Gatehouse.Registry

/-!
# What calls do to the registry

A call that adds to the registry either fails and leaves the registry as it is, or adds one entry
and leaves all others as they are. So every endpoint is stored under its own host and every proxy
under its own port, and the entries of the registry are exactly those that calls have registered,
each where it was registered.

## Main definitions

* `Proxy.IsSupported`: the scheme and the port of a proxy are those of its listen URL.
* `Endpoint.Stores`, `Router.Stores`: one thing is stored, and nothing else differs.
* `Router.Effect`: what a call answers, and what it does.
* `Router.Has`: an entry is in the registry.
* `Router.IsOrderly`: everything is stored where it belongs.

## Main results

* `Router.effect_call`: every call has one of these effects.
* `Router.Effect.has_iff`: a call adds the entry that it registers, and no other.
* `Router.Effect.isOrderly`: a call keeps everything where it belongs.
* `Router.registry_of_calls`: the registry after any calls.
-/

namespace Gatehouse

/-! ### Proxies -/

/-- The schemes of listen URLs. -/
def ListenScheme.names : List String := ["http", "https", "tcp", "tls"]

/-- A scheme is supported, or refused by its name. -/
theorem ListenScheme.parse_cases (name : String) :
    (name ∈ names ∧ ∃ scheme, parse name = .ok scheme) ∨
      (name ∉ names ∧ parse name = .error (.unsupportedScheme name)) := by
  by_cases hname : name ∈ names
  · refine .inl ⟨hname, ?_⟩
    simp only [names, List.mem_cons, List.not_mem_nil, or_false] at hname
    rcases hname with rfl | rfl | rfl | rfl
    · exact ⟨.http, rfl⟩
    · exact ⟨.https, rfl⟩
    · exact ⟨.tcp, rfl⟩
    · exact ⟨.tls, rfl⟩
  · refine .inr ⟨hname, ?_⟩
    simp only [names, List.mem_cons, List.not_mem_nil, or_false, not_or] at hname
    simp only [parse, hname, if_false]

namespace Proxy

/-- The listen URL of a proxy has a scheme that listeners speak, and a port, and these are the
scheme and the port of the proxy. -/
structure IsSupported (p : Proxy) : Prop where
  mem_names : p.listen.scheme ∈ ListenScheme.names
  scheme_eq : ListenScheme.parse p.listen.scheme = .ok p.scheme
  port_eq : p.listen.portOrDefault = some p.port

/-- A listen URL has an unknown scheme, or no port, or there is a proxy for it. -/
theorem create_cases (listen target : Url) :
    (listen.scheme ∉ ListenScheme.names ∧
      create listen target = .error (.unsupportedScheme listen.scheme)) ∨
    (listen.scheme ∈ ListenScheme.names ∧ listen.portOrDefault = none ∧
      create listen target = .error (.invalidListenPort listen.text)) ∨
    ∃ p, create listen target = .ok p ∧ p.listen = listen ∧ p.target = target ∧
      p.IsSupported := by
  rcases ListenScheme.parse_cases listen.scheme with ⟨hname, scheme, hparse⟩ | ⟨hname, hparse⟩
  · refine .inr ?_
    cases hport : listen.portOrDefault with
    | none => exact .inl ⟨hname, rfl, by simp only [create, hparse, hport]⟩
    | some port =>
      exact .inr ⟨⟨listen, target, scheme, port⟩, by simp only [create, hparse, hport], rfl, rfl,
        hname, hparse, hport⟩
  · exact .inl ⟨hname, by simp only [create, hparse]⟩

end Proxy

/-! ### What is stored -/

/-- A proxy is stored under its port, and nothing else differs. -/
structure Endpoint.Stores (e : Endpoint) (p : Proxy) (e' : Endpoint) : Prop where
  host_eq : e'.host = e.host
  settings_eq : e'.settings = e.settings
  certificates_eq : e'.certificates = e.certificates
  here : e'.proxy? p.port = some p
  elsewhere : ∀ port, port ≠ p.port → e'.proxy? port = e.proxy? port

/-- An endpoint is stored under a host, and nothing else differs. -/
structure Router.Stores (r : Router) (host : String) (e : Endpoint) (r' : Router) : Prop where
  settings_eq : r'.settings = r.settings
  asked_eq : r'.asked = r.asked
  here : r'.endpoint? host = some e
  elsewhere : ∀ other, other ≠ host → r'.endpoint? other = r.endpoint? other

theorem Endpoint.stores_insert (e : Endpoint) (p : Proxy) :
    e.Stores p { e with byPort := e.byPort.insert p.port p } where
  host_eq := rfl
  settings_eq := rfl
  certificates_eq := rfl
  here := by simp [proxy?, OrderedMap.get?_insert]
  elsewhere port hport := by simp [proxy?, OrderedMap.get?_insert, hport]

namespace Router

theorem stores_store (r : Router) (host : String) (e : Endpoint) :
    r.Stores host e (r.store host e) where
  settings_eq := rfl
  asked_eq := rfl
  here := by simp [endpoint?, store, Dictionary.get?_insert]
  elsewhere other hother := by simp [endpoint?, store, Dictionary.get?_insert, hother]

/-- Storing an endpoint where it is already changes nothing. -/
theorem store_of_endpoint? {r : Router} {host : String} {e : Endpoint}
    (he : r.endpoint? host = some e) : r.store host e = r := by
  rw [store, Dictionary.insert_of_get? he]

/-! ### What a call does -/

/-- What a call answers, and what it does. The first four answers are failures. -/
inductive Effect (r : Router) :
    RegistryCall → Option (Except RouterError Registered) → Router → Prop
  | endpointExists {host : String} {first : Endpoint} (hfirst : r.endpoint? host = some first) :
      Effect r (.createEndpoint host) (some (.error (.endpointExists host))) r
  | unsupportedScheme {host : String} {e : Endpoint} {listen target : Url}
      (he : r.endpoint? host = some e) (hscheme : listen.scheme ∉ ListenScheme.names) :
      Effect r (.createProxy host listen target)
        (some (.error (.unsupportedScheme listen.scheme))) r
  | invalidListenPort {host : String} {e : Endpoint} {listen target : Url}
      (he : r.endpoint? host = some e) (hscheme : listen.scheme ∈ ListenScheme.names)
      (hport : listen.portOrDefault = none) :
      Effect r (.createProxy host listen target) (some (.error (.invalidListenPort listen.text))) r
  | portConflict {host : String} {e : Endpoint} {listen target : Url} {port : Nat} {first : Proxy}
      (he : r.endpoint? host = some e) (hscheme : listen.scheme ∈ ListenScheme.names)
      (hport : listen.portOrDefault = some port) (hfirst : e.proxy? port = some first) :
      Effect r (.createProxy host listen target) (some (.error (.portConflict port))) r
  | endpointCreated {host : String} {r' : Router} (hfree : r.endpoint? host = none)
      (hstores : r.Stores host (.create host r.settings) r') :
      Effect r (.createEndpoint host) (some (.ok (.endpoint host))) r'
  | proxyCreated {host : String} {e e' : Endpoint} {p : Proxy} {r' : Router}
      (he : r.endpoint? host = some e) (hp : p.IsSupported) (hfree : e.proxy? p.port = none)
      (hproxy : e.Stores p e') (hstores : r.Stores host e' r') :
      Effect r (.createProxy host p.listen p.target) (some (.ok (.proxy host p))) r'
  /-- There is no endpoint to call. -/
  | unanswered {host : String} {listen target : Url} (hnone : r.endpoint? host = none) :
      Effect r (.createProxy host listen target) none r

/-- Every call has an effect. -/
theorem effect_call (r : Router) (c : RegistryCall) : r.Effect c (r.call c).1 (r.call c).2 := by
  cases c with
  | createEndpoint host =>
    cases hhost : r.endpoint? host with
    | some first =>
      simp only [call, addEndpoint, hhost]
      exact .endpointExists hhost
    | none =>
      simp only [call, addEndpoint, hhost]
      exact .endpointCreated hhost (stores_store r host _)
  | createProxy host listen target =>
    cases hhost : r.endpoint? host with
    | none =>
      simp only [call, addProxy, hhost, Option.map_none]
      exact .unanswered hhost
    | some e =>
      simp only [call, addProxy, hhost, Option.map_some]
      rcases Proxy.create_cases listen target with
        ⟨hscheme, hcreate⟩ | ⟨hscheme, hport, hcreate⟩ | ⟨p, hcreate, rfl, rfl, hp⟩
      · simp only [Endpoint.addProxy, hcreate, store_of_endpoint? hhost]
        exact .unsupportedScheme hhost hscheme
      · simp only [Endpoint.addProxy, hcreate, store_of_endpoint? hhost]
        exact .invalidListenPort hhost hscheme hport
      · cases hslot : e.proxy? p.port with
        | some first =>
          simp only [Endpoint.addProxy, hcreate, hslot, store_of_endpoint? hhost]
          exact .portConflict hhost hp.mem_names hp.port_eq hslot
        | none =>
          simp only [Endpoint.addProxy, hcreate, hslot]
          exact .proxyCreated hhost hp hslot (e.stores_insert p) (stores_store r host _)

/-! ### The entries -/

/-- An entry is in the registry. -/
def Has (r : Router) : Registered → Prop
  | .endpoint host => ∃ e, r.endpoint? host = some e
  | .proxy host p => ∃ e, r.endpoint? host = some e ∧ e.proxy? p.port = some p

variable {r r' : Router} {c : RegistryCall} {answer : Option (Except RouterError Registered)}

theorem not_has_create (settings : ProxySettings) (x : Registered) :
    ¬ (create settings).Has x := by
  cases x <;> simp [Has, create, endpoint?]

/-- A call that fails leaves the registry as it is. -/
theorem Effect.eq_of_error {cause : RouterError}
    (h : r.Effect c (some (.error cause)) r') : r' = r := by
  cases h <;> rfl

/-- A call registers nothing that is there already. -/
theorem Effect.not_has {x : Registered} (h : r.Effect c (some (.ok x)) r') : ¬ r.Has x := by
  cases h with
  | endpointCreated hfree => simp [Has, hfree]
  | proxyCreated he hp hfree => simp [Has, he, hfree]

/-- A call adds the entry that it registers, and no other. -/
theorem Effect.has_iff (h : r.Effect c answer r') (x : Registered) :
    r'.Has x ↔ r.Has x ∨ answer = some (.ok x) := by
  cases h with
  | endpointExists | unsupportedScheme | invalidListenPort | portConflict | unanswered => simp
  | @endpointCreated host _ hfree hstores =>
    cases x with
    | endpoint other =>
      by_cases hother : other = host
      · subst hother
        simp [Has, hstores.here]
      · simp [Has, hstores.elsewhere other hother, Ne.symm hother]
    | proxy other p =>
      by_cases hother : other = host
      · subst hother
        simp [Has, hstores.here, hfree, Endpoint.create, Endpoint.proxy?]
      · simp [Has, hstores.elsewhere other hother]
  | @proxyCreated host e e' p _ he _ hfree hproxy hstores =>
    cases x with
    | endpoint other =>
      by_cases hother : other = host
      · subst hother
        simp [Has, hstores.here, he]
      · simp [Has, hstores.elsewhere other hother]
    | proxy other q =>
      by_cases hother : other = host
      · subst hother
        by_cases hport : q.port = p.port
        · simp [Has, hstores.here, he, hport, hproxy.here, hfree]
        · have hne : p ≠ q := fun hpq => hport (congrArg Proxy.port hpq.symm)
          simp [Has, hstores.here, he, hproxy.elsewhere _ hport, hne]
      · simp [Has, hstores.elsewhere other hother, Ne.symm hother]

theorem mem_registered_iff {x : Registered} :
    x ∈ registered answer ↔ answer = some (.ok x) := by
  unfold registered
  split
  next => simp [eq_comm]
  next hother => simpa using hother x

/-- After calls, the registry has what it had before and what the calls have registered. -/
theorem has_callAll_iff (r : Router) (calls : List RegistryCall) (x : Registered) :
    (r.callAll calls).2.Has x ↔ r.Has x ∨ x ∈ (r.callAll calls).1 := by
  induction calls generalizing r with
  | nil => simp [callAll]
  | cons c calls ih =>
    simp only [callAll, List.mem_append, mem_registered_iff]
    rw [ih, (r.effect_call c).has_iff, or_assoc]

/-! ### Everything is where it belongs -/

/-- Every endpoint is stored under its host and every proxy under its port, and proxies are
supported. -/
structure IsOrderly (r : Router) : Prop where
  host_eq {host : String} {e : Endpoint} : r.endpoint? host = some e → e.host = host
  port_eq {host : String} {e : Endpoint} {port : Nat} {p : Proxy} :
    r.endpoint? host = some e → e.proxy? port = some p → p.port = port
  isSupported {host : String} {e : Endpoint} {port : Nat} {p : Proxy} :
    r.endpoint? host = some e → e.proxy? port = some p → p.IsSupported

theorem isOrderly_create (settings : ProxySettings) : (create settings).IsOrderly := by
  constructor <;> simp [create, endpoint?]

/-- Storing an endpoint that is in order under its host keeps everything where it belongs. -/
theorem IsOrderly.stores (hr : r.IsOrderly) {host : String} {e : Endpoint}
    (hstores : r.Stores host e r') (hhost : e.host = host)
    (hproxies : ∀ port p, e.proxy? port = some p → p.port = port ∧ p.IsSupported) :
    r'.IsOrderly := by
  have hcases {other : String} {f : Endpoint} (hf : r'.endpoint? other = some f) :
      (other = host ∧ f = e) ∨ r.endpoint? other = some f := by
    by_cases hother : other = host
    · subst hother
      exact .inl ⟨rfl, Option.some.inj (hf.symm.trans hstores.here)⟩
    · exact .inr (hstores.elsewhere other hother ▸ hf)
  constructor
  · intro other f hf
    rcases hcases hf with ⟨rfl, rfl⟩ | hf
    · exact hhost
    · exact hr.host_eq hf
  · intro other f port p hf hp
    rcases hcases hf with ⟨rfl, rfl⟩ | hf
    · exact (hproxies port p hp).1
    · exact hr.port_eq hf hp
  · intro other f port p hf hp
    rcases hcases hf with ⟨rfl, rfl⟩ | hf
    · exact (hproxies port p hp).2
    · exact hr.isSupported hf hp

/-- A call keeps everything where it belongs. -/
theorem Effect.isOrderly (h : r.Effect c answer r') (hr : r.IsOrderly) : r'.IsOrderly := by
  cases h with
  | endpointExists | unsupportedScheme | invalidListenPort | portConflict | unanswered => exact hr
  | endpointCreated _ hstores =>
    refine hr.stores hstores rfl fun port p hp => ?_
    simp [Endpoint.create, Endpoint.proxy?] at hp
  | @proxyCreated host e e' p _ he hsupported hfree hproxy hstores =>
    refine hr.stores hstores (hproxy.host_eq.trans (hr.host_eq he)) fun port q hq => ?_
    by_cases hport : port = p.port
    · subst hport
      cases hproxy.here.symm.trans hq
      exact ⟨rfl, hsupported⟩
    · rw [hproxy.elsewhere port hport] at hq
      exact ⟨hr.port_eq he hq, hr.isSupported he hq⟩

theorem isOrderly_callAll (hr : r.IsOrderly) (calls : List RegistryCall) :
    (r.callAll calls).2.IsOrderly := by
  induction calls generalizing r with
  | nil => exact hr
  | cons c calls ih => exact ih ((r.effect_call c).isOrderly hr)

theorem sortByHost_perm (es : List Endpoint) : (sortByHost es).Perm es :=
  List.mergeSort_perm es _

theorem mem_endpoints_iff {e : Endpoint} :
    e ∈ r.endpoints ↔ ∃ host, r.endpoint? host = some e :=
  (sortByHost_perm _).mem_iff.trans Dictionary.mem_values_iff

theorem IsOrderly.nodup_hosts (hr : r.IsOrderly) : (r.endpoints.map (·.host)).Nodup :=
  ((sortByHost_perm _).map _).nodup_iff.2 (Dictionary.nodup_map_values fun _ _ => hr.host_eq)

theorem IsOrderly.nodup_ports (hr : r.IsOrderly) {e : Endpoint} (he : e ∈ r.endpoints) :
    (e.proxies.map (·.port)).Nodup := by
  obtain ⟨host, hhost⟩ := mem_endpoints_iff.1 he
  exact OrderedMap.nodup_map_values fun _ _ => hr.port_eq hhost

/-- The registry after any calls. Every endpoint is stored under its own host and every proxy,
whose listen scheme is a supported one, under its own port; no host comes up twice, and no port
within an endpoint. The entries are exactly those that the calls have registered, each on the
endpoint where it was registered. A further call that fails leaves the registry as it is, and one
that succeeds adds one entry that was not there and leaves all others as they are; which of the two
it is, and with which answer, shows in the registry. -/
theorem registry_of_calls (settings : ProxySettings) (calls : List RegistryCall) :
    let done := ((create settings).callAll calls).1
    let r := ((create settings).callAll calls).2
    r.IsOrderly ∧
    (r.endpoints.map (·.host)).Nodup ∧
    (∀ e ∈ r.endpoints, (e.proxies.map (·.port)).Nodup) ∧
    (∀ x, r.Has x ↔ x ∈ done) ∧
    ∀ c, r.Effect c (r.call c).1 (r.call c).2 ∧
      (∀ cause, (r.call c).1 = some (.error cause) → (r.call c).2 = r) ∧
      (∀ x, (r.call c).1 = some (.ok x) →
        ¬ r.Has x ∧ ∀ y, (r.call c).2.Has y ↔ r.Has y ∨ y = x) := by
  intro done r
  have hr : r.IsOrderly := isOrderly_callAll (isOrderly_create settings) calls
  refine ⟨hr, hr.nodup_hosts, fun e => hr.nodup_ports, fun x => ?_, fun c => ?_⟩
  · rw [has_callAll_iff, or_iff_right (not_has_create settings x)]
  · have heffect := r.effect_call c
    refine ⟨heffect, fun cause hanswer => ?_, fun x hanswer => ?_⟩
    · rw [hanswer] at heffect
      exact heffect.eq_of_error
    · rw [hanswer] at heffect
      refine ⟨heffect.not_has, fun y => ?_⟩
      rw [heffect.has_iff y]
      simp [eq_comm]

end Router

end Gatehouse
