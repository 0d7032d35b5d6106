import Gatehouse.Json.Record
import Gatehouse.IoError
import Gatehouse.Url.Parser

/-!
# The endpoints file

A JSON file names the endpoints to serve: the host of each, and its proxies with their listen
and target URLs.

## Main definitions

* `ProxyConfig`, `EndpointConfig`, `EndpointsFile` : the content of the file.
* `EndpointsFileError` : why there is no such content, with its wordings.
* `EndpointsFile.parse`, `EndpointsFile.ofFile` : the content of a text and of a file.
-/

namespace Gatehouse

/-- A proxy of the file. -/
structure ProxyConfig where
  listen : Url
  target : Url
  deriving DecidableEq, Repr

/-- An endpoint of the file. -/
structure EndpointConfig where
  host : String
  proxies : List ProxyConfig
  deriving DecidableEq, Repr

/-- The content of the file. -/
structure EndpointsFile where
  endpoints : List EndpointConfig
  deriving DecidableEq, Repr

/-- Reads a URL. -/
def Json.readUrl : Json.Reader Url := fun k =>
  match Json.readWantedString "a string representing an URL" k with
  | .error e => .error e
  | .ok (s, k) =>
    match Url.parse s with
    | .ok u => .ok (u, k)
    | .error e => k.fail (.invalidUrl e s)

/-- The fields of a proxy that have been read. -/
structure ProxyConfig.Draft where
  listen : Option Url
  target : Option Url

/-- The shape of a proxy. -/
def ProxyConfig.shape : Json.Shape ProxyConfig.Draft ProxyConfig where
  name := "ProxyConfig"
  fields := [
    ⟨"listen", false, (·.listen.isSome),
      fun s k => (Json.readUrl k).map fun (x, k) => ({ s with listen := some x }, k)⟩,
    ⟨"target", false, (·.target.isSome),
      fun s k => (Json.readUrl k).map fun (x, k) => ({ s with target := some x }, k)⟩]
  finish s :=
    match s.listen, s.target with
    | some listen, some target => .ok ⟨listen, target⟩
    | none, _ => .error "listen"
    | _, none => .error "target"

/-- The fields of an endpoint that have been read. -/
structure EndpointConfig.Draft where
  host : Option String
  proxies : Option (List ProxyConfig)

/-- The shape of an endpoint, whose proxies may be missing. -/
def EndpointConfig.shape : Json.Shape EndpointConfig.Draft EndpointConfig where
  name := "EndpointConfig"
  fields := [
    ⟨"host", false, (·.host.isSome),
      fun s k => (Json.readString k).map fun (x, k) => ({ s with host := some x }, k)⟩,
    ⟨"proxies", true, (·.proxies.isSome),
      fun s k => (Json.readList (Json.readRecord ProxyConfig.shape ⟨none, none⟩) k).map
        fun (x, k) => ({ s with proxies := some x }, k)⟩]
  finish s :=
    match s.host with
    | some host => .ok ⟨host, s.proxies.getD []⟩
    | none => .error "host"

/-- The shape of the file, whose endpoints may be missing. -/
def EndpointsFile.shape : Json.Shape (Option (List EndpointConfig)) EndpointsFile where
  name := "EndpointsFile"
  fields := [
    ⟨"endpoints", true, (·.isSome),
      fun _ k => (Json.readList (Json.readRecord EndpointConfig.shape ⟨none, none⟩) k).map
        fun (x, k) => (some x, k)⟩]
  finish s := .ok ⟨s.getD []⟩

/-- Why a file names no endpoints. -/
inductive EndpointsFileError where
  /-- The file cannot be read. -/
  | unreadable (path : String) (cause : IoError)
  /-- Its text is not of the wanted form. -/
  | invalid (cause : Json.Error)
  deriving DecidableEq, Repr

/-- The wordings of the error, from the outermost cause to the innermost. -/
def EndpointsFileError.chain : EndpointsFileError → List String
  | .unreadable path cause => ["Failed to read endpoints file " ++ path, cause.text]
  | .invalid cause => ["Invalid endpoints file", cause.message]

namespace EndpointsFile

/-- The content of a JSON text. -/
def parse (json : String) : Except EndpointsFileError EndpointsFile :=
  match Json.document (Json.readRecord shape none) json with
  | .ok file => .ok file
  | .error e => .error (.invalid e)

/-- The content of a file, given what reading the file at the path gave. -/
def ofFile (path : String) (content : Except IoError String) :
    Except EndpointsFileError EndpointsFile :=
  match content with
  | .error e => .error (.unreadable path e)
  | .ok json => parse json

end EndpointsFile

end Gatehouse
