import Gatehouse.Text.Split
import Gatehouse.Text.Numeral

/-!
# Rack-backed targets

A target whose host is `rack` names its workload in the path, as
`/{app}/{kind}/{name}:{port}`, where the kind is `service` or `resource`. A service needs a port
number; for a resource the text after the colon must be there, but is used only if it is one.
Further segments and further tokens after a second colon are ignored.

## Main definitions

* `TargetKind`, `Target` : what a path points at.
* `TargetError` : why a path points at nothing, with its wording and reason code.
* `Target.parse` : the target of a path.
-/

namespace Gatehouse

/-- The host that marks a target as rack-backed. -/
def rackHost : String := "rack"

/-- What a rack-backed target points at. -/
inductive TargetKind where
  /-- The processes of a service, reached on a port. -/
  | service
  /-- A named resource. -/
  | resource
  deriving DecidableEq, Repr

/-- The word for a kind in a path. -/
def TargetKind.name : TargetKind → String
  | .service => "service"
  | .resource => "resource"

/-- The kind that a word of a path names. -/
def TargetKind.ofName? (word : String) : Option TargetKind :=
  if word = "service" then some .service
  else if word = "resource" then some .resource
  else none

/-- Why a path names no workload. -/
inductive TargetError where
  /-- The path has fewer than four segments, or an empty app. -/
  | malformedPath (path : String)
  /-- The selector of a workload of this kind is not `{name}:{port}`. -/
  | malformedSelector (kind selector : String)
  /-- The kind is neither a service nor a resource. -/
  | unknownKind (kind : String)
  deriving DecidableEq, Repr

namespace TargetError

/-- The wording of the error. -/
def message : TargetError → String
  | .malformedPath path => "invalid rack endpoint: " ++ path
  | .malformedSelector kind selector => "invalid " ++ kind ++ " endpoint: " ++ selector
  | .unknownKind kind => "unknown proxy type: " ++ kind

/-- The reason code of the error. -/
def reason : TargetError → String
  | .malformedPath _ => "malformed_target_path"
  | .malformedSelector .. => "malformed_instance_selector"
  | .unknownKind _ => "unknown_kind"

end TargetError

/-- A workload of the rack. -/
structure Target where
  app : String
  kind : TargetKind
  name : String
  /-- The port, below 65536: always there for a service, and for a resource if it is a number. -/
  port : Option Nat
  deriving DecidableEq, Repr

namespace Target

/-- The port that a selector's token denotes, as far as the kind asks for one. -/
def portOf (kind : TargetKind) (selector : List Char) (token : List Char) :
    Except TargetError (Option Nat) :=
  match kind, Numeral.readPort token with
  | _, .ok port => .ok (some port)
  | .resource, .error _ => .ok none
  | .service, .error _ => .error (.malformedSelector kind.name (String.ofList selector))

/-- The workload with the given app, kind and selector segment. -/
def ofSelector (app : List Char) (kind : TargetKind) (selector : List Char) :
    Except TargetError Target :=
  match Text.splitOn ':' selector with
  | name :: token :: _ =>
    if name = [] then .error (.malformedSelector kind.name (String.ofList selector))
    else (portOf kind selector token).map fun port =>
      { app := String.ofList app, kind, name := String.ofList name, port }
  | _ => .error (.malformedSelector kind.name (String.ofList selector))

/-- The workload that a target path names. -/
def parse (path : String) : Except TargetError Target :=
  match Text.splitOn '/' path.toList with
  | _ :: app :: kind :: selector :: _ =>
    if app = [] then .error (.malformedPath path)
    else
      match TargetKind.ofName? (String.ofList kind) with
      | none => .error (.unknownKind (String.ofList kind))
      | some kind => ofSelector app kind selector
  | _ => .error (.malformedPath path)

end Target

end Gatehouse
