import Gatehouse.Net.Ip
import Gatehouse.Target

/-!
# URLs

A URL is kept in the parts that its text has: scheme, authority, path, query and fragment. All
parts are in their final form, percent-encoded and without dot segments; an authority without
host is the empty one, as in `tcp:///x`.

## Main definitions

* `Host` : a name, or an address of either version.
* `Authority`, `Url` : the parts of a URL.
* `Url.text` : the whole text, from which the parts can be read back.
* `Url.portOrDefault` : the port that is written, or the one that the scheme implies.
* `Url.isRackTarget` : whether the URL points into the rack.
-/

namespace Gatehouse

/-- The host of a URL. -/
inductive Host where
  /-- A name: a domain for special schemes, any encoded text for others. -/
  | name (text : String)
  | v4 (address : Ipv4)
  | v6 (address : Ipv6)
  deriving DecidableEq, Repr

/-- The text of a host; an address of version 6 is in brackets. -/
def Host.text : Host → String
  | .name text => text
  | .v4 x => String.ofList x.text
  | .v6 x => String.ofList ('[' :: x.groupsText ++ [']'])

/-- What stands between `//` and the path. -/
structure Authority where
  /-- The encoded user name, empty if there is none. -/
  username : String
  /-- The encoded password. -/
  password : Option String
  /-- The host, or none for the empty host. -/
  host : Option Host
  /-- The port, unless it is the default of the scheme. -/
  port : Option Nat
  deriving DecidableEq, Repr

/-- A URL in its parts. -/
structure Url where
  scheme : String
  authority : Option Authority
  path : String
  query : Option String
  fragment : Option String
  deriving DecidableEq, Repr

/-- How the host and path of a scheme are read. -/
inductive SchemeClass where
  /-- `http`, `https`, `ws`, `wss` and `ftp`: a host is needed, and it is a domain or an
  address. -/
  | special
  /-- `file`: like the special ones, but the host may be empty. -/
  | file
  /-- All others: the host, if there is one, is any encoded text. -/
  | general
  deriving DecidableEq, Repr

/-- The class of a scheme. -/
def SchemeClass.of (scheme : String) : SchemeClass :=
  if scheme = "file" then .file
  else if scheme ∈ ["http", "https", "ws", "wss", "ftp"] then .special
  else .general

/-- Whether a scheme's URLs have domains, and treat a backslash as a slash. -/
def SchemeClass.isSpecial : SchemeClass → Bool
  | .general => false
  | _ => true

/-- The port that a scheme implies. -/
def defaultPort? (scheme : String) : Option Nat :=
  if scheme = "http" ∨ scheme = "ws" then some 80
  else if scheme = "https" ∨ scheme = "wss" then some 443
  else if scheme = "ftp" then some 21
  else none

/-- The text of an authority without the two slashes. -/
def Authority.text (x : Authority) : String :=
  let password := match x.password with
    | none => ""
    | some p => ":" ++ p
  let sign := if x.username = "" ∧ x.password = none then "" else "@"
  let host := match x.host with
    | none => ""
    | some h => h.text
  let port := match x.port with
    | none => ""
    | some p => ":" ++ toString p
  x.username ++ password ++ sign ++ host ++ port

namespace Url

/-- The text of the query with its question mark. -/
def queryText (u : Url) : String :=
  match u.query with
  | none => ""
  | some q => "?" ++ q

/-- The text of the fragment with its number sign. -/
def fragmentText (u : Url) : String :=
  match u.fragment with
  | none => ""
  | some f => "#" ++ f

/-- The text of the authority with its two slashes. Without authority, a path that starts with
two slashes is kept apart from the scheme by `/.`. -/
def authorityText (u : Url) : String :=
  match u.authority with
  | some x => "//" ++ x.text
  | none => if "//".isPrefixOf u.path then "/." else ""

/-- The whole text of a URL. -/
def text (u : Url) : String :=
  u.scheme ++ ":" ++ u.authorityText ++ u.path ++ u.queryText ++ u.fragmentText

/-- The host, unless it is empty or there is no authority. -/
def host (u : Url) : Option Host := u.authority.bind Authority.host

/-- The text of the host. -/
def hostText (u : Url) : Option String := u.host.map Host.text

/-- The port that is written. -/
def port (u : Url) : Option Nat := u.authority.bind Authority.port

/-- The port that is written, or the one that the scheme implies. -/
def portOrDefault (u : Url) : Option Nat :=
  match u.port with
  | some p => some p
  | none => defaultPort? u.scheme

/-- Whether the URL points into the rack: its host is the marker. -/
def isRackTarget (u : Url) : Bool := u.hostText == some rackHost

/-- The workload that the path of the URL names. -/
def rackTarget (u : Url) : Except TargetError Target := Target.parse u.path

end Url

end Gatehouse
