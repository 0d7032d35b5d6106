import Gatehouse.Proofs.Registry.Calls
import Gatehouse.Startup.Run
import Mathlib.Data.List.Nodup

/-!
# Filling the registry from a file

The entries of an endpoints file are registered in the order of the file: an endpoint, then its
proxies, then the next endpoint. Each entry is a call, so what comes of a file is followed call by
call. Whether a call fails shows in the calls in front of it, since the registry holds exactly what
these have registered; and therefore a file is registered just if its hosts are distinct and each of
its endpoints has supported proxies on distinct ports, and otherwise the first call that fails tells
the error.

## Main definitions

* `EndpointsFile.calls`: the calls that register a file, in order.
* `RegistryCall.Offends`: a call fails behind other calls, and with which error.
* `EndpointsFile.IsValid`: the condition on a file.
* `Router.Fills`: what comes of calls up to the first that fails.

## Main results

* `Router.fills_register`: a file is registered by its calls.
* `Router.Effect.offends`, `Router.Effect.not_offends`: whether a call fails, by the calls in front
  of it.
* `EndpointsFile.isValid_iff`: a file is valid just if none of its calls offends.
* `Router.registry_of_file`: which files are registered, what the registry holds then, and which
  error is reported otherwise.
-/

namespace Gatehouse

/-! ### The calls of a file -/

/-- The calls that register an endpoint: for the endpoint itself, and then for its proxies. -/
def EndpointConfig.calls (e : EndpointConfig) : List RegistryCall :=
  .createEndpoint e.host :: e.proxies.map fun p => .createProxy e.host p.listen p.target

/-- The calls that register a file, in order. -/
def EndpointsFile.calls (file : EndpointsFile) : List RegistryCall :=
  file.endpoints.flatMap EndpointConfig.calls

namespace RegistryCall

/-- What a call registers if it succeeds. -/
def Registers : RegistryCall → Registered → Prop
  | .createEndpoint host, x => x = .endpoint host
  | .createProxy host listen target, x =>
    ∃ p, Proxy.create listen target = .ok p ∧ x = .proxy host p

/-- The error of a file whose call fails. -/
def fault : RegistryCall → RouterError → RegisterError
  | .createEndpoint _, cause => .endpoint cause
  | .createProxy host _ _, cause => .proxy host cause

/-- A call fails behind other calls: a host comes up again, or a proxy has an unsupported scheme,
or else no port, or else the port of a proxy of the same endpoint. -/
inductive Offends (before : List RegistryCall) : RegistryCall → RegisterError → Prop
  | endpointExists {host : String} (hbefore : .createEndpoint host ∈ before) :
      Offends before (.createEndpoint host) (.endpoint (.endpointExists host))
  | unsupportedScheme {host : String} {listen target : Url}
      (hscheme : listen.scheme ∉ ListenScheme.names) :
      Offends before (.createProxy host listen target)
        (.proxy host (.unsupportedScheme listen.scheme))
  | invalidListenPort {host : String} {listen target : Url}
      (hscheme : listen.scheme ∈ ListenScheme.names) (hport : listen.portOrDefault = none) :
      Offends before (.createProxy host listen target)
        (.proxy host (.invalidListenPort listen.text))
  | portConflict {host : String} {listen target listen' target' : Url} {port : Nat}
      (hscheme : listen.scheme ∈ ListenScheme.names) (hport : listen.portOrDefault = some port)
      (hbefore : .createProxy host listen' target' ∈ before)
      (hport' : listen'.portOrDefault = some port) :
      Offends before (.createProxy host listen target) (.proxy host (.portConflict port))

/-- No call fails behind those in front of it. -/
def AllClear (before : List RegistryCall) : List RegistryCall → Prop
  | [] => True
  | c :: rest => (∀ err, ¬ c.Offends before err) ∧ AllClear (before ++ [c]) rest

/-- A call that fails while none of those in front of it does. -/
def FirstOffence (calls : List RegistryCall) (err : RegisterError) : Prop :=
  ∃ before c after, calls = before ++ c :: after ∧ AllClear [] before ∧ c.Offends before err

end RegistryCall

/-! ### Files that can be registered -/

/-- The proxies of an endpoint have supported schemes and distinct ports. -/
structure EndpointConfig.IsValid (e : EndpointConfig) : Prop where
  scheme : ∀ p ∈ e.proxies, p.listen.scheme ∈ ListenScheme.names
  port : ∀ p ∈ e.proxies, ∃ port, p.listen.portOrDefault = some port
  ports_nodup : (e.proxies.map (·.listen.portOrDefault)).Nodup

/-- The hosts of a file are distinct, and all of its endpoints are valid. -/
structure EndpointsFile.IsValid (file : EndpointsFile) : Prop where
  hosts_nodup : (file.endpoints.map (·.host)).Nodup
  endpoint : ∀ e ∈ file.endpoints, e.IsValid

/-! ### One call -/

namespace Proxy

variable {p : Proxy} {listen target : Url}

/-- A proxy is made of the URLs that it is created from, and is supported. -/
theorem isSupported_of_create (h : create listen target = .ok p) :
    p.listen = listen ∧ p.target = target ∧ p.IsSupported := by
  obtain ⟨-, hcreate⟩ | ⟨-, -, hcreate⟩ | ⟨q, hcreate, hlisten, htarget, hq⟩ :=
    create_cases listen target
  · cases hcreate.symm.trans h
  · cases hcreate.symm.trans h
  · cases hcreate.symm.trans h
    exact ⟨hlisten, htarget, hq⟩

theorem IsSupported.create_eq (hp : p.IsSupported) : create p.listen p.target = .ok p := by
  rw [create, hp.scheme_eq, hp.port_eq]

end Proxy

namespace RegistryCall

variable {c : RegistryCall} {before calls calls' : List RegistryCall} {host : String} {p : Proxy}

/-- A call fails for one reason only. -/
theorem Offends.unique {err err' : RegisterError} (h : c.Offends before err)
    (h' : c.Offends before err') : err = err' := by
  cases h with
  | endpointExists => cases h' with | endpointExists => rfl
  | unsupportedScheme hscheme =>
    cases h' with
    | unsupportedScheme => rfl
    | invalidListenPort hscheme' | portConflict hscheme' => exact absurd hscheme' hscheme
  | invalidListenPort hscheme hport =>
    cases h' with
    | unsupportedScheme hscheme' => exact absurd hscheme hscheme'
    | invalidListenPort => rfl
    | portConflict _ hport' => cases hport.symm.trans hport'
  | portConflict hscheme hport =>
    cases h' with
    | unsupportedScheme hscheme' => exact absurd hscheme hscheme'
    | invalidListenPort _ hport' => cases hport.symm.trans hport'
    | portConflict _ hport' => cases hport.symm.trans hport'; rfl

theorem allClear_append_iff :
    AllClear before (calls ++ calls') ↔
      AllClear before calls ∧ AllClear (before ++ calls) calls' := by
  induction calls generalizing before with
  | nil => simp [AllClear]
  | cons c calls ih => simp [AllClear, ih, and_assoc]

theorem registers_endpoint_iff :
    c.Registers (.endpoint host) ↔ c = .createEndpoint host := by
  cases c <;> simp [Registers, eq_comm]

theorem registers_proxy_iff :
    c.Registers (.proxy host p) ↔ c = .createProxy host p.listen p.target ∧ p.IsSupported := by
  cases c with
  | createEndpoint => simp [Registers]
  | createProxy other listen target =>
    simp only [Registers, Registered.proxy.injEq, createProxy.injEq]
    constructor
    · rintro ⟨q, hcreate, rfl, rfl⟩
      obtain ⟨rfl, rfl, hp⟩ := Proxy.isSupported_of_create hcreate
      exact ⟨⟨rfl, rfl, rfl⟩, hp⟩
    · rintro ⟨⟨rfl, rfl, rfl⟩, hp⟩
      exact ⟨p, hp.create_eq, rfl, rfl⟩

end RegistryCall

namespace Router

variable {r r' : Router} {c : RegistryCall} {before : List RegistryCall}

/-- A registry holds what calls register that all register something, and nothing else. -/
structure HoldsExactly (r : Router) (calls : List RegistryCall) : Prop where
  isOrderly : r.IsOrderly
  has_iff : ∀ x, r.Has x ↔ ∃ c ∈ calls, c.Registers x
  registers : ∀ c ∈ calls, ∃ x, c.Registers x

theorem holdsExactly_create (settings : ProxySettings) : (create settings).HoldsExactly [] where
  isOrderly := isOrderly_create settings
  has_iff x := by simp [not_has_create]
  registers c hc := absurd hc List.not_mem_nil

namespace HoldsExactly

variable {host : String} {listen target : Url} {port : Nat}

theorem exists_endpoint_iff (h : r.HoldsExactly before) :
    (∃ e, r.endpoint? host = some e) ↔ .createEndpoint host ∈ before := by
  simpa [Has, RegistryCall.registers_endpoint_iff] using h.has_iff (.endpoint host)

/-- A port is taken just if a call in front has created a proxy on it. -/
theorem exists_proxy_iff (h : r.HoldsExactly before) :
    (∃ e first, r.endpoint? host = some e ∧ e.proxy? port = some first) ↔
      ∃ listen target, .createProxy host listen target ∈ before ∧
        listen.portOrDefault = some port := by
  constructor
  · rintro ⟨e, first, he, hfirst⟩
    obtain rfl := h.isOrderly.port_eq he hfirst
    obtain ⟨c, hc, hregisters⟩ := (h.has_iff (.proxy host first)).1 ⟨e, he, hfirst⟩
    obtain ⟨rfl, hsupported⟩ := RegistryCall.registers_proxy_iff.1 hregisters
    exact ⟨first.listen, first.target, hc, hsupported.port_eq⟩
  · rintro ⟨listen, target, hc, hport⟩
    obtain ⟨_, first, hcreate, rfl⟩ := h.registers _ hc
    obtain ⟨rfl, rfl, hsupported⟩ := Proxy.isSupported_of_create hcreate
    obtain ⟨e, he, hfirst⟩ := (h.has_iff (.proxy host first)).2 ⟨_, hc, first, hcreate, rfl⟩
    obtain rfl := Option.some.inj (hsupported.port_eq.symm.trans hport)
    exact ⟨e, first, he, hfirst⟩

end HoldsExactly

/-- A call that fails does so because of the calls in front of it. -/
theorem Effect.offends {cause : RouterError} (h : r.Effect c (some (.error cause)) r')
    (hr : r.HoldsExactly before) : c.Offends before (c.fault cause) := by
  cases h with
  | endpointExists hfirst => exact .endpointExists (hr.exists_endpoint_iff.1 ⟨_, hfirst⟩)
  | unsupportedScheme _ hscheme => exact .unsupportedScheme hscheme
  | invalidListenPort _ hscheme hport => exact .invalidListenPort hscheme hport
  | portConflict he hscheme hport hfirst =>
    obtain ⟨listen', target', hbefore, hport'⟩ := hr.exists_proxy_iff.1 ⟨_, _, he, hfirst⟩
    exact .portConflict hscheme hport hbefore hport'

/-- Nothing in front of a call that succeeds makes it fail. -/
theorem Effect.not_offends {x : Registered} (h : r.Effect c (some (.ok x)) r')
    (hr : r.HoldsExactly before) (err : RegisterError) : ¬ c.Offends before err := by
  intro hoffends
  cases h with
  | endpointCreated hfree =>
    obtain ⟨hbefore⟩ := hoffends
    obtain ⟨e, he⟩ := hr.exists_endpoint_iff.2 hbefore
    cases hfree.symm.trans he
  | proxyCreated he hp hfree =>
    cases hoffends with
    | unsupportedScheme hscheme => exact hscheme hp.mem_names
    | invalidListenPort _ hport => cases hp.port_eq.symm.trans hport
    | portConflict _ hport hbefore hport' =>
      obtain ⟨e', first, he', hfirst⟩ := hr.exists_proxy_iff.2 ⟨_, _, hbefore, hport'⟩
      cases he.symm.trans he'
      cases hp.port_eq.symm.trans hport
      cases hfree.symm.trans hfirst

/-- A call that succeeds registers what it is there to register. -/
theorem Effect.registers_iff {x : Registered} (h : r.Effect c (some (.ok x)) r')
    (y : Registered) : c.Registers y ↔ y = x := by
  cases h with
  | endpointCreated => exact Iff.rfl
  | proxyCreated _ hp => simp [RegistryCall.Registers, hp.create_eq]

theorem Effect.holdsExactly {x : Registered} (h : r.Effect c (some (.ok x)) r')
    (hr : r.HoldsExactly before) : r'.HoldsExactly (before ++ [c]) where
  isOrderly := h.isOrderly hr.isOrderly
  has_iff y := by
    rw [h.has_iff, hr.has_iff]
    simp [or_and_right, exists_or, h.registers_iff, eq_comm]
  registers d hd := by
    rcases List.mem_append.1 hd with hd | hd
    · exact hr.registers d hd
    · cases List.mem_singleton.1 hd
      exact ⟨x, (h.registers_iff x).2 rfl⟩

/-! ### All calls -/

/-- What comes of calls: of each the entry that it registers, up to the first that fails. -/
inductive Fills : Router → List RegistryCall → Registration → Prop
  | done (r : Router) : Fills r [] ⟨[], .ok r⟩
  | failed {r r' : Router} {c : RegistryCall} {cause : RouterError}
      (hcall : r.call c = (some (.error cause), r')) (rest : List RegistryCall) :
      Fills r (c :: rest) ⟨[], .error (c.fault cause)⟩
  | next {r r' : Router} {c : RegistryCall} {x : Registered} {rest : List RegistryCall}
      {later : Registration} (hcall : r.call c = (some (.ok x), r')) (hrest : Fills r' rest later) :
      Fills r (c :: rest) (later.after x)

namespace Fills

variable {calls calls' : List RegistryCall} {first later reg : Registration} {err : RegisterError}

theorem append (h : Fills r calls first) (hfirst : first.result = .ok r')
    (hlater : Fills r' calls' later) :
    Fills r (calls ++ calls') ⟨first.done ++ later.done, later.result⟩ := by
  induction h with
  | done r =>
    cases hfirst
    exact hlater
  | failed => cases hfirst
  | next hcall _ ih => exact .next hcall (ih hfirst)

theorem append_of_error (h : Fills r calls first) (hfirst : first.result = .error err)
    (calls' : List RegistryCall) : Fills r (calls ++ calls') first := by
  induction h with
  | done => cases hfirst
  | failed hcall rest => exact .failed hcall _
  | next hcall _ ih => exact .next hcall (ih hfirst)

/-- Calls of which none fails are all made. -/
theorem of_ok (h : Fills r calls reg) (hr : r.HoldsExactly before) (hreg : reg.result = .ok r') :
    RegistryCall.AllClear before calls ∧ r'.HoldsExactly (before ++ calls) := by
  induction h generalizing before with
  | done r =>
    cases hreg
    exact ⟨trivial, (List.append_nil before).symm ▸ hr⟩
  | failed => cases hreg
  | @next r _ c x rest later hcall _ ih =>
    have heffect := r.effect_call c
    rw [hcall] at heffect
    obtain ⟨hclear, hholds⟩ := ih (heffect.holdsExactly hr) hreg
    rw [List.append_assoc, List.singleton_append] at hholds
    exact ⟨⟨heffect.not_offends hr, hclear⟩, hholds⟩

/-- The first call that fails tells the error. -/
theorem error_iff (h : Fills r calls reg) (hr : r.HoldsExactly before) :
    reg.result = .error err ↔ ∃ front c after, calls = front ++ c :: after ∧
      RegistryCall.AllClear before front ∧ c.Offends (before ++ front) err := by
  induction h generalizing before with
  | done r => simp
  | @failed r _ c cause hcall rest =>
    have heffect := r.effect_call c
    rw [hcall] at heffect
    have hoffends := heffect.offends hr
    constructor
    · rintro ⟨⟩
      exact ⟨[], c, rest, rfl, trivial, (List.append_nil before).symm ▸ hoffends⟩
    · rintro ⟨front, d, after, hcalls, hclear, herr⟩
      cases front with
      | nil =>
        cases hcalls
        rw [List.append_nil] at herr
        rw [hoffends.unique herr]
      | cons _ front =>
        cases hcalls
        exact absurd hoffends (hclear.1 _)
  | @next r _ c x rest later hcall _ ih =>
    have heffect := r.effect_call c
    rw [hcall] at heffect
    have hclear := heffect.not_offends hr
    rw [show (later.after x).result = later.result from rfl, ih (heffect.holdsExactly hr)]
    constructor
    · rintro ⟨front, d, after, rfl, hfront, herr⟩
      rw [List.append_assoc, List.singleton_append] at herr
      exact ⟨c :: front, d, after, rfl, ⟨hclear, hfront⟩, herr⟩
    · rintro ⟨front, d, after, hcalls, hfront, herr⟩
      cases front with
      | nil =>
        cases hcalls
        rw [List.append_nil] at herr
        exact absurd herr (hclear err)
      | cons _ front =>
        cases hcalls
        refine ⟨front, d, after, rfl, hfront.2, ?_⟩
        rwa [List.append_assoc, List.singleton_append]

end Fills

/-! ### The calls of a file are made in order -/

theorem fills_registerProxies {host : String} {e : Endpoint} (he : r.endpoint? host = some e)
    (proxies : List ProxyConfig) :
    Fills r (proxies.map fun p => .createProxy host p.listen p.target)
      (r.registerProxies host proxies) := by
  induction proxies generalizing r e with
  | nil => exact .done r
  | cons p proxies ih =>
    cases hadd : r.addProxy host p.listen p.target with
    | none => simp [addProxy, he] at hadd
    | some outcome =>
      obtain ⟨result, r'⟩ := outcome
      have hcall : r.call (.createProxy host p.listen p.target) =
          (some (result.map (.proxy host)), r') := by simp only [call, hadd]
      rw [registerProxies, createProxy, hadd, List.map_cons]
      cases result with
      | error cause => exact .failed hcall _
      | ok proxy =>
        have heffect := r.effect_call (.createProxy host p.listen p.target)
        rw [hcall] at heffect
        obtain ⟨e', he'⟩ := (heffect.has_iff (.endpoint host)).2 (.inl ⟨e, he⟩)
        exact .next hcall (ih he')

theorem fills_registerAll (r : Router) (endpoints : List EndpointConfig) :
    Fills r (endpoints.flatMap EndpointConfig.calls) (r.registerAll endpoints) := by
  induction endpoints generalizing r with
  | nil => exact .done r
  | cons e endpoints ih =>
    rw [List.flatMap_cons, EndpointConfig.calls, List.cons_append, registerAll, createEndpoint]
    cases hhost : r.endpoint? e.host with
    | some taken =>
      have hadd : r.addEndpoint e.host = (.error (.endpointExists e.host), r) := by
        simp only [addEndpoint, hhost]
      have hcall : r.call (.createEndpoint e.host) =
          (some (.error (.endpointExists e.host)), r) := by rw [call, hadd]; rfl
      rw [hadd]
      exact .failed hcall _
    | none =>
      let created := Endpoint.create e.host r.settings
      have hadd : r.addEndpoint e.host = (.ok created, r.store e.host created) := by
        simp only [addEndpoint, hhost, created]
      have hcall : r.call (.createEndpoint e.host) =
          (some (.ok (.endpoint e.host)), r.store e.host created) := by rw [call, hadd]; rfl
      have hhere := fills_registerProxies (stores_store r e.host created).here e.proxies
      rw [hadd]
      dsimp only [succeeded]
      generalize (r.store e.host created).registerProxies e.host e.proxies = here at hhere ⊢
      obtain ⟨done, result⟩ := here
      cases result with
      | error err => exact .next hcall (hhere.append_of_error rfl _)
      | ok r' => exact .next hcall (hhere.append rfl (ih r'))

theorem fills_register (r : Router) (file : EndpointsFile) :
    Fills r file.calls (r.register file) :=
  fills_registerAll r file.endpoints

end Router

/-! ### Files without offence -/

namespace RegistryCall

variable {before : List RegistryCall} {host : String} {listen target : Url}

theorem not_offends_endpoint_iff :
    (∀ err, ¬ (createEndpoint host).Offends before err) ↔ .createEndpoint host ∉ before := by
  refine ⟨fun h hbefore => h _ (.endpointExists hbefore), fun h err hoffends => ?_⟩
  cases hoffends with
  | endpointExists hbefore => exact h hbefore

theorem not_offends_proxy_iff :
    (∀ err, ¬ (createProxy host listen target).Offends before err) ↔
      listen.scheme ∈ ListenScheme.names ∧ ∃ port, listen.portOrDefault = some port ∧
        ∀ listen' target', .createProxy host listen' target' ∈ before →
          listen'.portOrDefault ≠ some port := by
  constructor
  · intro h
    have hscheme : listen.scheme ∈ ListenScheme.names :=
      Classical.byContradiction fun hscheme => h _ (.unsupportedScheme hscheme)
    cases hport : listen.portOrDefault with
    | none => exact absurd (.invalidListenPort hscheme hport) (h _)
    | some port =>
      exact ⟨hscheme, port, rfl, fun _ _ hbefore hport' =>
        h _ (.portConflict hscheme hport hbefore hport')⟩
  · rintro ⟨hscheme, port, hport, hfree⟩ err hoffends
    cases hoffends with
    | unsupportedScheme hunknown => exact hunknown hscheme
    | invalidListenPort _ hnone => cases hport.symm.trans hnone
    | portConflict _ hport' hbefore hconflict =>
      exact hfree _ _ hbefore (hconflict.trans (hport'.symm.trans hport))

/-- Proxies of an endpoint are clear if they are supported, on distinct ports, and on none that a
proxy in front of them has. -/
theorem allClear_proxies_iff (proxies : List ProxyConfig) :
    AllClear before (proxies.map fun p => .createProxy host p.listen p.target) ↔
      EndpointConfig.IsValid ⟨host, proxies⟩ ∧
        ∀ p ∈ proxies, ∀ listen target, .createProxy host listen target ∈ before →
          listen.portOrDefault ≠ p.listen.portOrDefault := by
  induction proxies generalizing before with
  | nil =>
    have hvalid : EndpointConfig.IsValid ⟨host, []⟩ := by constructor <;> simp
    simp [AllClear, hvalid]
  | cons p proxies ih =>
    rw [List.map_cons, AllClear, not_offends_proxy_iff, ih]
    constructor
    · rintro ⟨⟨hscheme, port, hport, hfree⟩, hvalid, hbefore⟩
      have hnew : p.listen.portOrDefault ∉ proxies.map (·.listen.portOrDefault) := by
        intro hmem
        obtain ⟨q, hq, hconflict⟩ := List.mem_map.1 hmem
        exact hbefore q hq p.listen p.target (by simp) hconflict.symm
      refine ⟨⟨List.forall_mem_cons.2 ⟨hscheme, hvalid.scheme⟩,
        List.forall_mem_cons.2 ⟨⟨port, hport⟩, hvalid.port⟩,
        List.nodup_cons.2 ⟨hnew, hvalid.ports_nodup⟩⟩, fun q hq listen target hmem => ?_⟩
      rcases List.mem_cons.1 hq with rfl | hq
      · exact hport ▸ hfree listen target hmem
      · exact hbefore q hq listen target (List.mem_append_left _ hmem)
    · rintro ⟨hvalid, hbefore⟩
      obtain ⟨port, hport⟩ := hvalid.port p (.head _)
      obtain ⟨hnew, hnodup⟩ := List.nodup_cons.1 hvalid.ports_nodup
      refine ⟨⟨hvalid.scheme p (.head _), port, hport, fun listen target hmem =>
        hport ▸ hbefore p (.head _) listen target hmem⟩,
        ⟨fun q hq => hvalid.scheme q (.tail _ hq), fun q hq => hvalid.port q (.tail _ hq), hnodup⟩,
        fun q hq listen target hmem hconflict => ?_⟩
      rcases List.mem_append.1 hmem with hmem | hmem
      · exact hbefore q (.tail _ hq) listen target hmem hconflict
      · cases List.mem_singleton.1 hmem
        exact hnew (List.mem_map.2 ⟨q, hq, hconflict.symm⟩)

variable {front : List EndpointConfig}

theorem createEndpoint_mem_calls_iff :
    .createEndpoint host ∈ front.flatMap EndpointConfig.calls ↔ host ∈ front.map (·.host) := by
  simp [EndpointConfig.calls, eq_comm]

theorem host_of_createProxy_mem_calls
    (h : .createProxy host listen target ∈ front.flatMap EndpointConfig.calls) :
    host ∈ front.map (·.host) := by
  obtain ⟨e, he, hcall⟩ := List.mem_flatMap.1 h
  simp only [EndpointConfig.calls, List.mem_cons, List.mem_map, reduceCtorEq, false_or,
    createProxy.injEq] at hcall
  obtain ⟨-, -, rfl, -⟩ := hcall
  exact List.mem_map.2 ⟨e, he, rfl⟩

/-- Where hosts are distinct, proxies are created for a host just as its endpoint lists them. -/
theorem createProxy_mem_calls_iff {endpoints : List EndpointConfig}
    (hnodup : (endpoints.map (·.host)).Nodup) {e : EndpointConfig} (he : e ∈ endpoints)
    {urls : Url × Url} :
    .createProxy e.host urls.1 urls.2 ∈ endpoints.flatMap EndpointConfig.calls ↔
      urls ∈ e.proxies.map fun p => (p.listen, p.target) := by
  obtain ⟨listen, target⟩ := urls
  simp only [List.mem_flatMap, EndpointConfig.calls, List.mem_cons, List.mem_map, reduceCtorEq,
    false_or, createProxy.injEq, Prod.mk.injEq]
  constructor
  · rintro ⟨f, hf, p, hp, hhost, hurls⟩
    obtain rfl := List.inj_on_of_nodup_map hnodup hf he hhost
    exact ⟨p, hp, hurls⟩
  · rintro ⟨p, hp, hurls⟩
    exact ⟨e, he, p, hp, rfl, hurls⟩

/-- Endpoints are clear behind others if they are valid, and their hosts are distinct and come up in
none of the others. -/
theorem allClear_endpoints_iff (endpoints : List EndpointConfig) :
    AllClear (front.flatMap EndpointConfig.calls) (endpoints.flatMap EndpointConfig.calls) ↔
      EndpointsFile.IsValid ⟨endpoints⟩ ∧ ∀ e ∈ endpoints, e.host ∉ front.map (·.host) := by
  induction endpoints generalizing front with
  | nil =>
    have hvalid : EndpointsFile.IsValid ⟨[]⟩ := by constructor <;> simp
    simp [AllClear, hvalid]
  | cons e endpoints ih =>
    have hfront : (front.flatMap EndpointConfig.calls ++ [.createEndpoint e.host]) ++
        e.proxies.map (fun p => .createProxy e.host p.listen p.target) =
          (front ++ [e]).flatMap EndpointConfig.calls := by
      simp [EndpointConfig.calls]
    rw [List.flatMap_cons, EndpointConfig.calls, List.cons_append, AllClear,
      not_offends_endpoint_iff, createEndpoint_mem_calls_iff, allClear_append_iff,
      allClear_proxies_iff, hfront, ih]
    constructor
    · rintro ⟨hnew, ⟨he, -⟩, hvalid, hothers⟩
      refine ⟨⟨List.nodup_cons.2 ⟨fun hmem => ?_, hvalid.hosts_nodup⟩,
        List.forall_mem_cons.2 ⟨he, hvalid.endpoint⟩⟩,
        List.forall_mem_cons.2 ⟨hnew, fun f hf hmem => ?_⟩⟩
      · obtain ⟨f, hf, hhost⟩ := List.mem_map.1 hmem
        exact hothers f hf (by simp [hhost])
      · exact hothers f hf (by simp [List.mem_map.1 hmem])
    · rintro ⟨hvalid, hothers⟩
      obtain ⟨hnew, hnodup⟩ := List.nodup_cons.1 hvalid.hosts_nodup
      have hhost := hothers e (.head _)
      refine ⟨hhost, ⟨hvalid.endpoint e (.head _), fun p hp listen target hmem => ?_⟩,
        ⟨hnodup, fun f hf => hvalid.endpoint f (.tail _ hf)⟩, fun f hf hmem => ?_⟩
      · rcases List.mem_append.1 hmem with hmem | hmem
        · exact absurd (host_of_createProxy_mem_calls hmem) hhost
        · cases List.mem_singleton.1 hmem
      · rw [List.map_append, List.mem_append, List.map_singleton, List.mem_singleton] at hmem
        rcases hmem with hmem | hmem
        · exact hothers f (.tail _ hf) hmem
        · exact hnew (List.mem_map.2 ⟨f, hf, hmem⟩)

end RegistryCall

/-- A file is valid just if none of its calls fails behind those in front of it. -/
theorem EndpointsFile.isValid_iff (file : EndpointsFile) :
    file.IsValid ↔ RegistryCall.AllClear [] file.calls := by
  have hiff := @RegistryCall.allClear_endpoints_iff [] file.endpoints
  simp only [List.flatMap_nil, List.map_nil, List.not_mem_nil, not_false_eq_true, implies_true,
    and_true] at hiff
  exact hiff.symm

/-! ### The registry of a file -/

namespace Router

variable {r : Router} {file : EndpointsFile}

/-- A registry has the hosts of a file and no others, and the endpoint of each host has the proxies
of the file and no others; all of them are stored where they belong. -/
structure Holds (r : Router) (file : EndpointsFile) : Prop where
  isOrderly : r.IsOrderly
  hosts_perm : (r.endpoints.map (·.host)).Perm (file.endpoints.map (·.host))
  proxies_perm : ∀ e ∈ file.endpoints, ∃ stored, r.endpoint? e.host = some stored ∧
    (stored.proxies.map fun p => (p.listen, p.target)).Perm
      (e.proxies.map fun p => (p.listen, p.target))

/-- A host comes up in the registry just if it is the host of an endpoint. -/
theorem IsOrderly.mem_hosts_iff (hr : r.IsOrderly) {host : String} :
    host ∈ r.endpoints.map (·.host) ↔ ∃ e, r.endpoint? host = some e := by
  constructor
  · intro hmem
    obtain ⟨e, he, rfl⟩ := List.mem_map.1 hmem
    obtain ⟨host, hhost⟩ := mem_endpoints_iff.1 he
    exact ⟨e, hr.host_eq hhost ▸ hhost⟩
  · rintro ⟨e, he⟩
    exact List.mem_map.2 ⟨e, mem_endpoints_iff.2 ⟨host, he⟩, hr.host_eq he⟩

/-- An endpoint has a proxy just if the registry has it under the host of the endpoint. -/
theorem IsOrderly.mem_proxies_iff (hr : r.IsOrderly) {host : String} {e : Endpoint}
    (he : r.endpoint? host = some e) (p : Proxy) : p ∈ e.proxies ↔ r.Has (.proxy host p) := by
  constructor
  · intro hp
    obtain ⟨port, hport⟩ := OrderedMap.mem_values_iff.1 hp
    obtain rfl := hr.port_eq he hport
    exact ⟨e, he, hport⟩
  · rintro ⟨f, hf, hp⟩
    cases he.symm.trans hf
    exact OrderedMap.mem_values_iff.2 ⟨p.port, hp⟩

/-- The proxies of an orderly endpoint have distinct pairs of URLs, since their ports differ. -/
theorem IsOrderly.nodup_urls (hr : r.IsOrderly) {host : String} {e : Endpoint}
    (he : r.endpoint? host = some e) : (e.proxies.map fun p => (p.listen, p.target)).Nodup := by
  have hports : e.proxies.map (fun p => p.listen.portOrDefault) =
      (e.proxies.map (·.port)).map some := by
    rw [List.map_map]
    refine List.map_congr_left fun p hp => ?_
    obtain ⟨port, hport⟩ := OrderedMap.mem_values_iff.1 hp
    exact (hr.isSupported he hport).port_eq
  refine List.Nodup.of_map (fun urls => urls.1.portOrDefault) ?_
  rw [List.map_map]
  exact hports ▸ (hr.nodup_ports (mem_endpoints_iff.2 ⟨host, he⟩)).map
    fun _ _ => Option.some.inj

/-- A registry that holds what the calls of a valid file register holds the file. -/
theorem HoldsExactly.holds (h : r.HoldsExactly file.calls) (hfile : file.IsValid) :
    r.Holds file where
  isOrderly := h.isOrderly
  hosts_perm := by
    refine (List.perm_ext_iff_of_nodup h.isOrderly.nodup_hosts hfile.hosts_nodup).2 fun host => ?_
    rw [h.isOrderly.mem_hosts_iff, h.exists_endpoint_iff, EndpointsFile.calls,
      RegistryCall.createEndpoint_mem_calls_iff]
  proxies_perm e he := by
    obtain ⟨stored, hstored⟩ := h.exists_endpoint_iff.2
      (RegistryCall.createEndpoint_mem_calls_iff.2 (List.mem_map.2 ⟨e, he, rfl⟩))
    have hurls : (e.proxies.map fun p => (p.listen, p.target)).Nodup := by
      refine List.Nodup.of_map (fun urls => urls.1.portOrDefault) ?_
      rw [List.map_map]
      exact (hfile.endpoint e he).ports_nodup
    refine ⟨stored, hstored,
      (List.perm_ext_iff_of_nodup (h.isOrderly.nodup_urls hstored) hurls).2 fun urls => ?_⟩
    rw [← RegistryCall.createProxy_mem_calls_iff hfile.hosts_nodup he]
    constructor
    · intro hmem
      obtain ⟨p, hp, rfl⟩ := List.mem_map.1 hmem
      obtain ⟨c, hc, hregisters⟩ :=
        (h.has_iff _).1 ((h.isOrderly.mem_proxies_iff hstored p).1 hp)
      exact (RegistryCall.registers_proxy_iff.1 hregisters).1 ▸ hc
    · intro hmem
      obtain ⟨_, p, hcreate, rfl⟩ := h.registers _ hmem
      obtain ⟨hlisten, htarget, -⟩ := Proxy.isSupported_of_create hcreate
      have hhas := (h.has_iff _).2 ⟨_, hmem, p, hcreate, rfl⟩
      have hp := (h.isOrderly.mem_proxies_iff hstored p).2 hhas
      exact List.mem_map.2 ⟨p, hp, by rw [hlisten, htarget]⟩

/-- What comes of a file, up to the first of its calls that fails. -/
theorem register_cases (settings : ProxySettings) (file : EndpointsFile) :
    (∃ r, ((create settings).register file).result = .ok r ∧ file.IsValid ∧ r.Holds file) ∨
      ∃ err, ((create settings).register file).result = .error err ∧ ¬ file.IsValid ∧
        RegistryCall.FirstOffence file.calls err := by
  have hfills := fills_register (create settings) file
  have hstart := holdsExactly_create settings
  cases hresult : ((create settings).register file).result with
  | ok r =>
    obtain ⟨hclear, hholds⟩ := hfills.of_ok hstart hresult
    have hvalid := file.isValid_iff.2 hclear
    exact .inl ⟨r, rfl, hvalid, hholds.holds hvalid⟩
  | error err =>
    have hfirst := (hfills.error_iff hstart).1 hresult
    refine .inr ⟨err, rfl, fun hvalid => ?_, hfirst⟩
    obtain ⟨front, c, after, hcalls, -, hoffends⟩ := hfirst
    have hclear := file.isValid_iff.1 hvalid
    rw [hcalls, RegistryCall.allClear_append_iff] at hclear
    exact hclear.2.1 err hoffends

/-- **The registry of a file.** A file is registered just if its hosts are distinct and each of its
endpoints has proxies with supported schemes on distinct ports, which are written or implied; the
registry then has the hosts and the proxies of the file and nothing else. Otherwise the error is
that of the first call of the file that fails behind those in front of it, and a run that has read
the file ends with this error. -/
theorem registry_of_file (settings : ProxySettings) (file : EndpointsFile) :
    ((∃ r, ((create settings).register file).result = .ok r) ↔ file.IsValid) ∧
    (∀ r, ((create settings).register file).result = .ok r → r.Holds file) ∧
    (∀ err, ((create settings).register file).result = .error err ↔
      RegistryCall.FirstOffence file.calls err) ∧
    ∀ premises config rack err, Startup.loadRack premises config = .ok rack →
      EndpointsFile.ofFile config.endpointsFile (premises.file config.endpointsFile) = .ok file →
      RegistryCall.FirstOffence file.calls err →
      (Startup.proceed premises config).2 = .failed err.chain := by
  have herror (settings : ProxySettings) (err : RegisterError) :
      ((create settings).register file).result = .error err ↔
        RegistryCall.FirstOffence file.calls err :=
    (fills_register (create settings) file).error_iff (holdsExactly_create settings)
  refine ⟨?_, fun r hr => ?_, herror settings,
    fun premises config rack err hrack hfile hfirst => ?_⟩
  · obtain ⟨r, hr, hvalid, -⟩ | ⟨err, herr, hinvalid, -⟩ := register_cases settings file
    · exact ⟨fun _ => hvalid, fun _ => ⟨r, hr⟩⟩
    · exact ⟨fun ⟨r, hr⟩ => (by cases herr.symm.trans hr), fun hvalid => absurd hvalid hinvalid⟩
  · obtain ⟨r', hr', -, hholds⟩ | ⟨err, herr, -⟩ := register_cases settings file
    · cases hr'.symm.trans hr
      exact hholds
    · cases herr.symm.trans hr
  · have hregister := (herror config.proxySettings err).2 hfirst
    simp only [Startup.proceed, hrack, hfile, hregister]

end Router

end Gatehouse
