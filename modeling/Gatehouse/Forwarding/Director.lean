import Gatehouse.Http.Uri
import Gatehouse.Url.Basic

/-!
# The path that a backend is asked for

A workload of the rack is asked for the inbound path as it is, because the path of the target
names the workload. A direct backend is asked for the path of the target followed by the inbound
path, with both queries.

## Main definitions

* `Director` : how outbound paths come about.
* `Director.ofTarget` : the way of a target.
* `Director.pathAndQuery` : the outbound path and query of an inbound target.
-/

namespace Gatehouse

/-- How the outbound path comes about. -/
inductive Director where
  /-- The inbound path is kept. -/
  | rack
  /-- The inbound path follows the one of the target, and the queries are merged. -/
  | direct (basePath : String) (baseQuery : Option String)
  deriving DecidableEq, Repr

/-- Two paths with exactly one slash between them. -/
def joinPaths (a b : String) : String :=
  match a.toList.getLast? == some '/', b.toList.head? == some '/' with
  | true, true => a ++ String.ofList b.toList.tail
  | false, false => a ++ "/" ++ b
  | _, _ => a ++ b

/-- The queries that are there and not empty, joined, or none if there is none. -/
def joinQueries (a b : Option String) : Option String :=
  match [a, b].filterMap (fun q => q.filter (· ≠ "")) with
  | [] => none
  | parts => some ("&".intercalate parts)

namespace Director

/-- How the outbound path comes about for a target. -/
def ofTarget (target : Url) : Director :=
  if target.isRackTarget then .rack else .direct target.path target.query

/-- The outbound path and query of an inbound target. -/
def pathAndQuery (d : Director) (uri : Uri) : String :=
  match d with
  | .rack => uri.pathAndQuery?.getD "/"
  | .direct basePath baseQuery =>
    joinPaths basePath uri.path ++
      match joinQueries baseQuery uri.query with
      | some q => "?" ++ q
      | none => ""

end Director

end Gatehouse
