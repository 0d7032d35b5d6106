import Gatehouse.Url.Basic
import Gatehouse.RouterError

/-!
# Addresses of direct targets

A target outside the rack is dialled at its host and port. The port may be implied by the scheme.

## Main definitions

* `Url.dialAddress` : the text `host:port` that is dialled for a target.
-/

namespace Gatehouse

/-- The address that is dialled for a target. -/
def Url.dialAddress (url : Url) : Except RouterError String :=
  match url.host with
  | none => .error (.dialFailure url.text "missing host")
  | some host =>
    match url.portOrDefault with
    | none => .error (.dialFailure url.text "missing port")
    | some port => .ok (host.text ++ ":" ++ toString port)

end Gatehouse
