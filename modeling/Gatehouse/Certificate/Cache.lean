import Gatehouse.Certificate.Basic
import Gatehouse.Dictionary

/-!
# The certificates of an endpoint

An endpoint asks for a certificate when it needs one for the first time, and keeps it. Several
callers may ask at the same time: each looks into the cache, asks the issuer if nothing is there,
publishes what it got unless something has been published meanwhile, and answers with what is in
the cache then. The steps of different callers may come in any order.

## Main definitions

* `CertificateCache`, `CertificateCache.publish` : the published certificates.
* `CertificateCall` : how far a caller has come.
* `CertificateDesk` : the cache, the number of requests to the issuer, and the callers.
* `CertificateDesk.step` : one step of one caller.
* `CertificateDesk.opening` : an endpoint without certificates, and callers.
* `CertificateCache.obtain` : all steps of one caller in a row.
-/

namespace Gatehouse

/-- The certificate published for each host name. -/
abbrev CertificateCache := Dictionary Certificate

/-- Publishes a certificate for a host name, unless there is one already. -/
def CertificateCache.publish (cache : CertificateCache) (hostname : String) (c : Certificate) :
    CertificateCache :=
  match cache.get? hostname with
  | some _ => cache
  | none => cache.insert hostname c

/-- How far a caller has come. -/
inductive CertificateCall where
  /-- It is about to look into the cache. -/
  | looking
  /-- It found nothing and is about to ask the issuer. -/
  | asking
  /-- It was given a certificate and is about to publish it. -/
  | publishing (issued : Certificate)
  /-- It is about to read back what is published. -/
  | reading (issued : Certificate)
  /-- It has its answer. -/
  | answered (result : Except RouterError Certificate)

/-- The state that the callers of an endpoint share, and the callers with their host names. -/
structure CertificateDesk where
  cache : CertificateCache
  /-- How often the issuer has been asked. -/
  asked : Nat
  calls : List (String × CertificateCall)

/-- One step of a caller: what it changes, and how far it has come then. -/
def CertificateCall.step (issuer : Issuer) (hostname : String) (cache : CertificateCache)
    (asked : Nat) : CertificateCall → CertificateCache × Nat × CertificateCall
  | .looking =>
    match cache.get? hostname with
    | some c => (cache, asked, .answered (.ok c))
    | none => (cache, asked, .asking)
  | .asking =>
    match issuer asked hostname with
    | .ok c => (cache, asked + 1, .publishing c)
    | .error e => (cache, asked + 1, .answered (.error e))
  | .publishing c => (cache.publish hostname c, asked, .reading c)
  | .reading c => (cache, asked, .answered (.ok ((cache.get? hostname).getD c)))
  | .answered r => (cache, asked, .answered r)

namespace CertificateDesk

/-- One step of the `i`-th caller. -/
def step (issuer : Issuer) (d : CertificateDesk) (i : Nat) : CertificateDesk :=
  match d.calls[i]? with
  | none => d
  | some (hostname, call) =>
    let (cache, asked, call) := call.step issuer hostname d.cache d.asked
    ⟨cache, asked, d.calls.set i (hostname, call)⟩

/-- The steps of the callers in the given order. -/
def run (issuer : Issuer) (d : CertificateDesk) (order : List Nat) : CertificateDesk :=
  order.foldl (step issuer) d

/-- A new caller. -/
def enter (d : CertificateDesk) (hostname : String) : CertificateDesk :=
  { d with calls := d.calls ++ [(hostname, .looking)] }

/-- An endpoint that has no certificate yet, and callers for the host names. -/
def opening (hostnames : List String) : CertificateDesk :=
  hostnames.foldl enter ⟨.empty, 0, []⟩

end CertificateDesk

/-- All steps of one caller in a row: its answer, the cache after it, and how often the issuer
has been asked by then. -/
def CertificateCache.obtain (issuer : Issuer) (cache : CertificateCache) (asked : Nat)
    (hostname : String) : Except RouterError Certificate × CertificateCache × Nat :=
  let desk := (CertificateDesk.mk cache asked [(hostname, .looking)]).run issuer [0, 0, 0, 0]
  match desk.calls with
  | [(_, .answered r)] => (r, desk.cache, desk.asked)
  | _ => (.error (.issuanceFailure hostname "unanswered"), desk.cache, desk.asked)

end Gatehouse
