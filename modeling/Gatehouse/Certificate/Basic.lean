import Gatehouse.RouterError

/-!
# Certificates

Listeners present certificates that an issuer makes for a host name. An issuer may fail, and may
answer every request with another certificate. The router has an authority of its own, which
signs a certificate for every name that can be written in one. Whether the public authorities stand
for a certificate depends on its whole chain, and is known to those who look at it.

## Main definitions

* `Certificate` : a certificate for a host name.
* `Issuer` : what is issued at each request.
* `Issuer.local` : the issuer of an authority of one's own.
-/

namespace Gatehouse

/-- A certificate for a host name, signed by an authority. -/
structure Certificate where
  hostname : String
  /-- The authority that signed it. -/
  authority : String
  /-- What tells the certificates of an authority apart. -/
  serial : Nat
  /-- Why the public authorities do not stand for it. They do if there is nothing: its chain leads
  to one of their roots, and is valid. -/
  publicFault : Option String
  deriving DecidableEq, Repr

/-- The holder of each certificate of the chain that is presented, the leaf first. -/
def Certificate.chain (c : Certificate) : List String := [c.hostname, c.authority]

/-- Why the public authorities do not stand for the certificates of other authorities. -/
def unknownIssuer : String := "UnknownIssuer"

/-- What an issuer answers when it is asked for the `n`-th time, for a host name. -/
abbrev Issuer := (n : Nat) → (hostname : String) → Except RouterError Certificate

/-- The name of the router's own authority. -/
def localAuthorityName : String := "rackgate local authority"

/-- The authority of one's own: it refuses names with characters beyond ASCII. -/
def Issuer.local (authority : String) : Issuer := fun n hostname =>
  if hostname.toList.all (·.toNat < 128) then .ok ⟨hostname, authority, n, some unknownIssuer⟩
  else .error (.issuanceFailure hostname ("Invalid IA5String: '" ++ hostname ++ "'"))

end Gatehouse
