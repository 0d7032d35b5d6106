import Gatehouse.Dictionary
import Gatehouse.Json.Record
import Gatehouse.Json.Writer
import Gatehouse.Rack.Basic

/-!
# Racks described by a file

A described rack lists the processes of its apps with the hosts they listen on, and the
addresses of its resources. Tunnels are plain connections to these addresses.

## Main definitions

* `LocalProcess`, `LocalApp`, `LocalRack` : the description.
* `LocalRack.parse`, `LocalRack.tree` : the description read from and written to JSON.
* `LocalRack.list`, `LocalRack.processAddress`, `LocalRack.resourceAddress` : the answers of the
  rack; a tunnel leads to the address.
* `LocalRack.rack` : the rack over a way to open connections.
-/

namespace Gatehouse

/-- A process of a described app. -/
structure LocalProcess where
  id : String
  service : String
  /-- The host that the process listens on. -/
  host : String
  deriving DecidableEq, Repr

/-- A described app. -/
structure LocalApp where
  processes : List LocalProcess
  /-- The address of each resource. -/
  resources : Dictionary String
  deriving DecidableEq

/-- A described rack. -/
structure LocalRack where
  apps : Dictionary LocalApp
  deriving DecidableEq

/-! ### Reading -/

/-- The fields of a process that have been read. -/
structure LocalProcess.Draft where
  id : Option String
  service : Option String
  host : Option String

/-- The value of a field that must be there. -/
def required {α : Type} (name : String) : Option α → Except String α
  | some x => .ok x
  | none => .error name

/-- The shape of a process. -/
def LocalProcess.shape : Json.Shape LocalProcess.Draft LocalProcess where
  name := "LocalProcess"
  fields := [
    ⟨"id", false, (·.id.isSome),
      fun s k => (Json.readString k).map fun (x, k) => ({ s with id := some x }, k)⟩,
    ⟨"service", false, (·.service.isSome),
      fun s k => (Json.readString k).map fun (x, k) => ({ s with service := some x }, k)⟩,
    ⟨"host", false, (·.host.isSome),
      fun s k => (Json.readString k).map fun (x, k) => ({ s with host := some x }, k)⟩]
  finish s := do
    return ⟨← required "id" s.id, ← required "service" s.service, ← required "host" s.host⟩

/-- The fields of an app that have been read. -/
structure LocalApp.Draft where
  processes : Option (List LocalProcess)
  resources : Option (Dictionary String)

/-- The shape of an app; both fields may be missing. -/
def LocalApp.shape : Json.Shape LocalApp.Draft LocalApp where
  name := "LocalApp"
  fields := [
    ⟨"processes", true, (·.processes.isSome),
      fun s k => (Json.readList (Json.readRecord LocalProcess.shape ⟨none, none, none⟩) k).map
        fun (x, k) => ({ s with processes := some x }, k)⟩,
    ⟨"resources", true, (·.resources.isSome),
      fun s k => (Json.readMembers Json.readString k).map
        fun (x, k) => ({ s with resources := some (Dictionary.ofEntries x) }, k)⟩]
  finish s := .ok ⟨s.processes.getD [], s.resources.getD Dictionary.empty⟩

/-- The shape of a rack, whose apps may be missing. -/
def LocalRack.shape : Json.Shape (Option (Dictionary LocalApp)) LocalRack where
  name := "LocalRack"
  fields := [
    ⟨"apps", true, (·.isSome),
      fun _ k => (Json.readMembers (Json.readRecord LocalApp.shape ⟨none, none⟩) k).map
        fun (x, k) => (some (Dictionary.ofEntries x), k)⟩]
  finish s := .ok ⟨s.getD Dictionary.empty⟩

namespace LocalRack

/-- The rack without apps. -/
def empty : LocalRack := ⟨Dictionary.empty⟩

/-- The rack that a JSON text describes. -/
def parse (json : String) : Except RackError LocalRack :=
  match Json.document (Json.readRecord shape none) json with
  | .ok rack => .ok rack
  | .error e => .error (.description e.message)

/-- The rack that a file describes, given what reading the file at the path gave. -/
def ofFile (path : String) (content : Except IoError String) : Except RackError LocalRack :=
  match content with
  | .error e => .error (.description (path ++ ": " ++ e.text))
  | .ok json => parse json

/-! ### Writing -/

end LocalRack

/-- A process as it is written. -/
def LocalProcess.tree (p : LocalProcess) : Json.Tree :=
  .object [("id", .string p.id), ("service", .string p.service), ("host", .string p.host)]

/-- An app as it is written. -/
def LocalApp.tree (a : LocalApp) : Json.Tree :=
  .object [("processes", .array (a.processes.map LocalProcess.tree)),
    ("resources", .object (a.resources.entries.map fun (k, v) => (k, .string v)))]

namespace LocalRack

/-- A rack as it is written. -/
def tree (r : LocalRack) : Json.Tree :=
  .object [("apps", .object (r.apps.entries.map fun (k, a) => (k, a.tree)))]

/-- Adds an app, or replaces the one of that name. -/
def withApp (r : LocalRack) (name : String) (app : LocalApp) : LocalRack :=
  ⟨r.apps.insert name app⟩

/-! ### Answers -/

/-- The app of a name. -/
def app (r : LocalRack) (name : String) : Except RackError LocalApp :=
  match r.apps.get? name with
  | some a => .ok a
  | none => .error (.notFound ("app " ++ name))

/-- The processes of a service of an app, in the order of the description. -/
def list (r : LocalRack) (app service : String) : Except RackError (List Process) :=
  (r.app app).map fun a =>
    (a.processes.filter (·.service == service)).map fun p => ⟨p.id, app, p.service⟩

/-- The address of a port on a host; a host with colons is put in brackets. -/
def hostPort (host : String) (port : Nat) : String :=
  let bracketed := host.toList.contains ':' && host.toList.head? != some '['
  (if bracketed then "[" ++ host ++ "]" else host) ++ ":" ++ toString port

/-- The address that a tunnel to a port of a process leads to. -/
def processAddress (r : LocalRack) (app id : String) (port : Nat) : Except RackError String :=
  match r.app app with
  | .error e => .error e
  | .ok a =>
    match a.processes.find? (·.id == id) with
    | some p => .ok (hostPort p.host port)
    | none => .error (.notFound ("process " ++ app ++ "/" ++ id))

/-- The address that a tunnel to a resource leads to. -/
def resourceAddress (r : LocalRack) (app resource : String) : Except RackError String :=
  match r.app app with
  | .error e => .error e
  | .ok a =>
    match a.resources.get? resource with
    | some address => .ok address
    | none => .error (.notFound ("resource " ++ app ++ "/" ++ resource))

/-- The tunnel over a connection to an address. A connection is waited for without a limit. -/
def openTunnel {τ : Type} (connect : String → Awaited IoError τ) (address : String) :
    Awaited RackError τ :=
  match connect address with
  | .ok t => .ok t
  | .error e => .error (.tunnel address e.text)
  | .pending => .pending

/-- The rack whose tunnels are connections opened by `connect`. -/
def rack {τ : Type} (r : LocalRack) (connect : String → Awaited IoError τ) : Rack τ where
  list app service := .ofExcept (r.list app service)
  processTunnel app id port :=
    (Awaited.ofExcept (r.processAddress app id port)).bind (openTunnel connect)
  resourceTunnel app resource :=
    (Awaited.ofExcept (r.resourceAddress app resource)).bind (openTunnel connect)

end LocalRack

end Gatehouse
