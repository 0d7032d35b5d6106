import Gatehouse.Certificate.Cache
import Gatehouse.Config
import Gatehouse.EndpointsFile
import Gatehouse.Json.Writer
import Gatehouse.OrderedMap
import Gatehouse.Proxy.Basic

/-!
# The registry of endpoints

The router keeps one endpoint for each host, in no particular order, and each endpoint keeps one
proxy for each listen port, in the order of the ports. Whenever endpoints are listed they are sorted
by their hosts, so the registry looks the same however it was filled.

An endpoint or a proxy is added by a call, which fails if the place is taken. The router lives on
after calls that fail, so a call gives the router afterwards in either case.

## Main definitions

* `Endpoint`, `Router` : the registry.
* `Router.addEndpoint`, `Router.addProxy` : adding to it, or the reason why not, and the router
  afterwards.
* `RegistryCall`, `Router.call`, `Router.callAll` : calls, one after the other.
* `Router.register` : adding all entries of an endpoints file.
* `Router.tree`, `Endpoint.debugText` : how the registry is shown.
-/

namespace Gatehouse

/-! ### Proxies as they are shown -/

/-- A proxy as it is written to JSON. -/
def Proxy.tree (p : Proxy) : Json.Tree :=
  .object [("listen", .string p.listenText), ("target", .string p.target.text)]

/-- A proxy as it is shown to people. -/
def Proxy.debugText (p : Proxy) : String :=
  "Proxy \x7b listen: " ++ Quoted.text p.listenText ++ ", target: " ++
    Quoted.text p.target.text ++ " \x7d"

/-! ### Endpoints -/

/-- A host with its proxies. -/
structure Endpoint where
  host : String
  settings : ProxySettings
  /-- The proxies, each under the port that it was stored under. -/
  byPort : OrderedMap Nat Proxy
  certificates : CertificateCache

namespace Endpoint

/-- An endpoint without proxies. -/
def create (host : String) (settings : ProxySettings) : Endpoint :=
  ⟨host, settings, .empty, Dictionary.empty⟩

/-- The proxy that is stored under a port. -/
def proxy? (e : Endpoint) (port : Nat) : Option Proxy := e.byPort.get? port

/-- All proxies, in ascending order of their ports. -/
def proxies (e : Endpoint) : List Proxy := e.byPort.values

/-- Stores the proxy of a listen URL and a target, unless its port is taken: the proxy or the
reason why there is none, and the endpoint afterwards. -/
def addProxy (e : Endpoint) (listen target : Url) : Except RouterError Proxy × Endpoint :=
  match Proxy.create listen target with
  | .error cause => (.error cause, e)
  | .ok p =>
    match e.proxy? p.port with
    | some _ => (.error (.portConflict p.port), e)
    | none => (.ok p, { e with byPort := e.byPort.insert p.port p })

/-- An endpoint as it is written to JSON. -/
def tree (e : Endpoint) : Json.Tree :=
  .object [("host", .string e.host),
    ("proxies", .object (e.proxies.map fun p => (toString p.port, p.tree)))]

/-- An endpoint as it is shown to people. -/
def debugText (e : Endpoint) : String :=
  "Endpoint \x7b host: " ++ Quoted.text e.host ++ ", proxies: [" ++
    ", ".intercalate (e.proxies.map Proxy.debugText) ++ "] \x7d"

end Endpoint

/-! ### The router -/

/-- All endpoints. -/
structure Router where
  settings : ProxySettings
  /-- The endpoints, each under the host that it was stored under. Their order tells nothing. -/
  byHost : Dictionary Endpoint
  /-- How often certificates have been asked for. -/
  asked : Nat

/-- The state after a success together with what came of it, or the reason of the failure. -/
def succeeded {ε α σ : Type} : Except ε α × σ → Except ε (α × σ)
  | (.ok x, s) => .ok (x, s)
  | (.error cause, _) => .error cause

namespace Router

/-- A router without endpoints. -/
def create (settings : ProxySettings) : Router := ⟨settings, .empty, 0⟩

/-- The endpoint that is stored under a host. -/
def endpoint? (r : Router) (host : String) : Option Endpoint := r.byHost.get? host

/-- Endpoints sorted by their hosts. -/
def sortByHost (es : List Endpoint) : List Endpoint := es.mergeSort fun e e' => e.host ≤ e'.host

/-- All endpoints, in ascending order of their hosts. -/
def endpoints (r : Router) : List Endpoint := sortByHost r.byHost.values

/-- The router with an endpoint stored under a host. -/
def store (r : Router) (host : String) (e : Endpoint) : Router :=
  { r with byHost := r.byHost.insert host e }

/-- Stores an endpoint for a host, unless there is one: the endpoint or the reason why there is
none, and the router afterwards. -/
def addEndpoint (r : Router) (host : String) : Except RouterError Endpoint × Router :=
  match r.endpoint? host with
  | some _ => (.error (.endpointExists host), r)
  | none =>
    let e := Endpoint.create host r.settings
    (.ok e, r.store host e)

/-- Adds a proxy to the endpoint of a host. Without such an endpoint nothing is answered. -/
def addProxy (r : Router) (host : String) (listen target : Url) :
    Option (Except RouterError Proxy × Router) :=
  (r.endpoint? host).map fun e =>
    let (result, e) := e.addProxy listen target
    (result, r.store host e)

/-- The router with an endpoint for a host, unless there was one. -/
def createEndpoint (r : Router) (host : String) : Except RouterError (Endpoint × Router) :=
  succeeded (r.addEndpoint host)

/-- The router with a proxy added to the endpoint of a host. -/
def createProxy (r : Router) (host : String) (listen target : Url) :
    Option (Except RouterError (Proxy × Router)) :=
  (r.addProxy host listen target).map succeeded

/-- Asks for the certificate of a host name at the endpoint of a host. -/
def certificate (r : Router) (issuer : Issuer) (host hostname : String) :
    Option (Except RouterError Certificate × Router) :=
  (r.endpoint? host).map fun e =>
    let (result, cache, asked) := e.certificates.obtain issuer r.asked hostname
    (result, { r.store host { e with certificates := cache } with asked })

/-- The registry as it is written to JSON. -/
def tree (r : Router) : Json.Tree := .array (r.endpoints.map Endpoint.tree)

end Router

/-! ### Calls -/

/-- A call that adds to the registry. -/
inductive RegistryCall where
  | createEndpoint (host : String)
  /-- On the endpoint of a host. -/
  | createProxy (host : String) (listen target : Url)
  deriving DecidableEq, Repr

/-- What has been registered. -/
inductive Registered where
  | endpoint (host : String)
  /-- A proxy of the endpoint of a host. -/
  | proxy (host : String) (p : Proxy)
  deriving DecidableEq, Repr

namespace Router

/-- What comes of a call, and the router afterwards. Nothing is answered by an endpoint that does
not exist. -/
def call (r : Router) : RegistryCall → Option (Except RouterError Registered) × Router
  | .createEndpoint host =>
    let (result, r) := r.addEndpoint host
    (some (result.map fun e => .endpoint e.host), r)
  | .createProxy host listen target =>
    match r.addProxy host listen target with
    | none => (none, r)
    | some (result, r) => (some (result.map (.proxy host)), r)

/-- What has been registered by a call with an answer. -/
def registered : Option (Except RouterError Registered) → List Registered
  | some (.ok x) => [x]
  | _ => []

/-- All that is registered by calls one after the other, in order, and the router afterwards. -/
def callAll (r : Router) : List RegistryCall → List Registered × Router
  | [] => ([], r)
  | c :: rest =>
    let x := r.call c
    let later := x.2.callAll rest
    (registered x.1 ++ later.1, later.2)

end Router

/-! ### Filling the registry from a file -/

/-- Why an entry of an endpoints file cannot be registered. -/
inductive RegisterError where
  | endpoint (cause : RouterError)
  /-- A proxy of the endpoint of a host. -/
  | proxy (host : String) (cause : RouterError)
  deriving DecidableEq, Repr

/-- The wordings of the error, from the outermost cause to the innermost. -/
def RegisterError.chain : RegisterError → List String
  | .endpoint cause => cause.message :: cause.source.toList
  | .proxy host cause =>
    ("Invalid proxy for " ++ host) :: cause.message :: cause.source.toList

/-- What comes of registering entries: all that has been registered, in order, and the router or
the first entry that cannot be registered. -/
structure Registration where
  done : List Registered
  result : Except RegisterError Router

/-- A registration with something registered before it. -/
def Registration.after (x : Registered) (r : Registration) : Registration :=
  { r with done := x :: r.done }

namespace Router

/-- Adds proxies to the endpoint of a host, in order, up to the first that cannot be added. -/
def registerProxies (r : Router) (host : String) : List ProxyConfig → Registration
  | [] => ⟨[], .ok r⟩
  | p :: rest =>
    match r.createProxy host p.listen p.target with
    | none => ⟨[], .ok r⟩
    | some (.error e) => ⟨[], .error (.proxy host e)⟩
    | some (.ok (proxy, r)) => (registerProxies r host rest).after (.proxy host proxy)

/-- Adds endpoints with their proxies, in order, up to the first that cannot be added. -/
def registerAll (r : Router) : List EndpointConfig → Registration
  | [] => ⟨[], .ok r⟩
  | e :: rest =>
    match r.createEndpoint e.host with
    | .error err => ⟨[], .error (.endpoint err)⟩
    | .ok (_, r) =>
      let here := r.registerProxies e.host e.proxies
      match here.result with
      | .error err => ⟨.endpoint e.host :: here.done, .error err⟩
      | .ok r =>
        let later := registerAll r rest
        ⟨.endpoint e.host :: here.done ++ later.done, later.result⟩

/-- Adds all entries of an endpoints file. -/
def register (r : Router) (file : EndpointsFile) : Registration :=
  r.registerAll file.endpoints

end Router

end Gatehouse
