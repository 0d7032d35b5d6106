import Gatehouse.Awaited
import Gatehouse.IoError

/-!
# The rack

A rack runs the processes and resources of apps. The router asks it for three things: the live
processes of a service, a tunnel to a port of a process, and a tunnel to a resource. Each request
may fail, and may never be answered.

## Main definitions

* `Process` : a live process as the rack lists it.
* `RackError` : the failures, with their wording.
* `Rack` : the three requests.
-/

namespace Gatehouse

/-- A live process. -/
structure Process where
  /-- The name of the process, unique within the app. -/
  id : String
  app : String
  service : String
  deriving DecidableEq, Repr

/-- A failed request to the rack. -/
inductive RackError where
  /-- The named app, process or resource does not exist. -/
  | notFound (what : String)
  /-- A tunnel could not be opened. -/
  | tunnel (target detail : String)
  /-- The description of the rack cannot be read. -/
  | description (text : String)
  /-- Input or output failed. -/
  | io (text : String)
  deriving DecidableEq, Repr

namespace RackError

/-- The wording of the error. -/
def message : RackError → String
  | .notFound what => "not found: " ++ what
  | .tunnel target detail => "tunnel to " ++ target ++ " failed: " ++ detail
  | .description text => "invalid rack description: " ++ text
  | .io text => "io error: " ++ text

/-- Whether the error means that the requested object does not exist. -/
def isNotFound : RackError → Bool
  | .notFound _ => true
  | _ => false

end RackError

/-- The requests that a rack answers. A tunnel is of the type `τ`. -/
structure Rack (τ : Type) where
  /-- The live processes of a service of an app. No process is no error. -/
  list : (app service : String) → Awaited RackError (List Process)
  /-- A tunnel to a port of a process. -/
  processTunnel : (app id : String) → (port : Nat) → Awaited RackError τ
  /-- A tunnel to a resource. -/
  resourceTunnel : (app resource : String) → Awaited RackError τ

end Gatehouse
