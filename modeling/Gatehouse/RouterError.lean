import Gatehouse.IoError
import Gatehouse.Rack.Basic
import Gatehouse.Target

/-!
# Errors of the router

Everything that can go wrong between a listener and a backend has a cause here, a wording and a
reason code.

## Main definitions

* `RouterError` : the causes.
* `RouterError.message`, `RouterError.reason`, `RouterError.source` : the wording, the reason
  code and the wording of the wrapped error.
-/

namespace Gatehouse

/-- What can go wrong in the router. -/
inductive RouterError where
  /-- A proxy of the endpoint already has this port. -/
  | portConflict (port : Nat)
  /-- The listen URL has neither a port nor a default port. -/
  | invalidListenPort (url : String)
  /-- No listener speaks this scheme. -/
  | unsupportedScheme (scheme : String)
  /-- There already is an endpoint for the host. -/
  | endpointExists (host : String)
  /-- The proxy outlived its endpoint. -/
  | endpointGone (url : String)
  /-- The target names no workload. -/
  | target (cause : TargetError)
  /-- The service has no live process. -/
  | noInstances (app service : String)
  /-- The rack could not open a tunnel. -/
  | tunnelFailure (cause : RackError)
  /-- The rack failed in any other way. -/
  | rack (cause : RackError)
  /-- A direct connection could not be opened. -/
  | dialFailure (address detail : String)
  /-- The inbound upgrade request is unusable. -/
  | upgradeFailure (text : String)
  /-- The exchange with the backend failed. -/
  | handshakeFailure (text : String)
  /-- No certificate could be issued. -/
  | issuanceFailure (host detail : String)
  /-- Input or output failed. -/
  | io (cause : IoError)
  deriving DecidableEq, Repr

namespace RouterError

/-- The wording of an error. -/
def message : RouterError → String
  | .portConflict port => "proxy already exists for port: " ++ toString port
  | .invalidListenPort url => "invalid listen port in " ++ url
  | .unsupportedScheme scheme => "unknown listener scheme: " ++ scheme
  | .endpointExists host => "endpoint already exists for host: " ++ host
  | .endpointGone url => "endpoint for proxy " ++ url ++ " is gone"
  | .target cause => "invalid target: " ++ cause.message
  | .noInstances app service => "no processes available for service: " ++ app ++ "/" ++ service
  | .tunnelFailure cause => "tunnel failed: " ++ cause.message
  | .rack cause => "rack error: " ++ cause.message
  | .dialFailure address detail => "dial " ++ address ++ " failed: " ++ detail
  | .upgradeFailure text => "websocket upgrade failed: " ++ text
  | .handshakeFailure text => "backend handshake failed: " ++ text
  | .issuanceFailure host detail => "certificate issuance failed for " ++ host ++ ": " ++ detail
  | .io cause => "io error: " ++ cause.text

/-- The reason code of an error. -/
def reason : RouterError → String
  | .portConflict _ => "port_conflict"
  | .invalidListenPort _ => "invalid_listen_port"
  | .unsupportedScheme _ => "unsupported_scheme"
  | .endpointExists _ => "endpoint_exists"
  | .endpointGone _ => "endpoint_gone"
  | .target cause => cause.reason
  | .noInstances .. => "no_instances_available"
  | .tunnelFailure _ => "tunnel_failure"
  | .rack _ => "rack_error"
  | .dialFailure .. => "dial_failure"
  | .upgradeFailure _ => "upgrade_failure"
  | .handshakeFailure _ => "handshake_failure"
  | .issuanceFailure .. => "certificate_issuance_failure"
  | .io _ => "io_error"

/-- The wording of the error that this one wraps, if it wraps one. -/
def source : RouterError → Option String
  | .target cause => some cause.message
  | .tunnelFailure cause => some cause.message
  | .rack cause => some cause.message
  | .io cause => some cause.text
  | _ => none

end RouterError

end Gatehouse
