import Gatehouse.Net.Ip
import Gatehouse.RouterError

/-!
# Names of servers

A TLS client names the server it wants to reach: by a DNS name or by an address. A DNS name
consists of labels of letters, digits, hyphens and underscores, and may end in a point.

## Main definitions

* `ServerName` : a DNS name or an address.
* `ServerName.isDns` : the rules of DNS names.
* `ServerName.parse` : the name that a text denotes.
-/

namespace Gatehouse

/-- The server that a TLS client wants to reach. -/
inductive ServerName where
  | dns (name : String)
  | ip (address : Ip)
  deriving DecidableEq, Repr

namespace ServerName

/-- Whether a character may stand in a label. -/
def isLabelChar (c : Char) : Bool := c.isAlphanum || c == '-' || c == '_'

/-- Whether a label is one: 1 to 63 characters, no hyphen at either end. -/
def isLabel (label : List Char) : Bool :=
  label != [] && label.length ≤ 63 && label.all isLabelChar
    && label.head? != some '-' && label.getLast? != some '-'

/-- The labels of a name, without an empty one behind a final point. -/
def labels (cs : List Char) : List (List Char) :=
  let all := Text.splitOn '.' cs
  if all.length > 1 ∧ all.getLast? = some [] then all.dropLast else all

/-- Whether a text is a DNS name: at most 253 characters, all labels are labels, and the last one
is no number. -/
def isDns (cs : List Char) : Bool :=
  cs.length ≤ 253 && (labels cs).all isLabel
    && (labels cs).getLast?.any fun label => !label.all Char.isDigit

/-- The server that a text names. -/
def parse (host : String) : Except RouterError ServerName :=
  if isDns host.toList then .ok (.dns host)
  else
    match Ip.parse? host.toList with
    | some x => .ok (.ip x)
    | none => .error (.handshakeFailure ("invalid server name " ++ host ++ ": invalid dns name"))

end ServerName

end Gatehouse
