import Gatehouse.Forwarding.Director
import Gatehouse.Proofs.Http.Targets
import Gatehouse.Proofs.Url.Texts

/-!
# Joining paths and queries

The path that a direct backend is asked for is that of its target and that of the inbound target,
with exactly one slash where they meet. The query is made of the queries that are there and not
empty. A workload of the rack is asked for what the inbound target is written with.

## Main definitions

* `Text.withoutFinal`, `Text.withoutFirst` : a text without one character at an end.

## Main results

* `toList_joinPaths`, `joinQueries_eq` : how paths and queries are joined.
* `Director.asked_of_inbound` : the text that a backend is asked for, cut at its query.
-/

namespace Gatehouse

open Uri (IsRooted written)

/-! ### One slash -/

namespace Text

variable {c : Char} {cs : List Char}

/-- The text without the character `c` at its end, if it is there. -/
def withoutFinal (c : Char) (cs : List Char) : List Char :=
  if cs.getLast? = some c then cs.dropLast else cs

/-- The text without the character `c` at its start, if it is there. -/
def withoutFirst (c : Char) (cs : List Char) : List Char :=
  if cs.head? = some c then cs.tail else cs

theorem withoutFinal_append_cons (h : cs.getLast? = some c) (rest : List Char) :
    withoutFinal c cs ++ c :: rest = cs ++ rest := by
  rw [withoutFinal, if_pos h, List.append_cons, List.dropLast_append_getLast? c h]

theorem cons_withoutFirst (h : cs.head? = some c) : c :: withoutFirst c cs = cs := by
  obtain ⟨rest, rfl⟩ := List.head?_eq_some_iff.1 h
  rw [withoutFirst, if_pos h, List.tail_cons]

theorem mem_of_mem_withoutFinal {d : Char} (h : d ∈ withoutFinal c cs) : d ∈ cs := by
  unfold withoutFinal at h
  split at h
  next => exact List.dropLast_subset cs h
  next => exact h

theorem mem_of_mem_withoutFirst {d : Char} (h : d ∈ withoutFirst c cs) : d ∈ cs := by
  unfold withoutFirst at h
  split at h
  next => exact List.mem_of_mem_tail h
  next => exact h

end Text

open Text (withoutFinal withoutFirst)

/-- Two paths are joined with one slash, in place of those at which they meet. -/
theorem toList_joinPaths (a b : String) :
    (joinPaths a b).toList =
      withoutFinal '/' a.toList ++ '/' :: withoutFirst '/' b.toList := by
  unfold joinPaths
  by_cases ha : a.toList.getLast? = some '/' <;> by_cases hb : b.toList.head? = some '/'
  · rw [Text.withoutFinal_append_cons ha, withoutFirst, if_pos hb]
    simp [ha, hb]
  · rw [Text.withoutFinal_append_cons ha, withoutFirst, if_neg hb]
    simp [ha, hb]
  · rw [Text.cons_withoutFirst hb, withoutFinal, if_neg ha]
    simp [ha, hb]
  · rw [withoutFinal, if_neg ha, withoutFirst, if_neg hb, beq_false_of_ne ha, beq_false_of_ne hb]
    simp

/-- An empty path, or a slash alone, in front of a rooted path changes nothing. -/
theorem joinPaths_of_isRooted {a b : String} (ha : a = "" ∨ a = "/") (hb : IsRooted b) :
    joinPaths a b = b := by
  have hnone : withoutFinal '/' a.toList = [] := by rcases ha with rfl | rfl <;> rfl
  rw [← String.toList_inj, toList_joinPaths, hnone, List.nil_append, Text.cons_withoutFirst hb]

/-- Nothing but the slash is added to what two paths are made of. -/
theorem mem_joinPaths {a b : String} {c : Char} (hc : c ∈ (joinPaths a b).toList) :
    c ∈ a.toList ∨ c = '/' ∨ c ∈ b.toList := by
  rw [toList_joinPaths, List.mem_append, List.mem_cons] at hc
  exact hc.imp Text.mem_of_mem_withoutFinal (.imp_right Text.mem_of_mem_withoutFirst)

/-! ### Queries -/

/-- The queries that are there and not empty are joined in order. -/
theorem joinQueries_eq (a b : Option String) :
    let parts := (a.toList ++ b.toList).filter (· ≠ "")
    joinQueries a b = if parts = [] then none else some ("&".intercalate parts) := by
  intro parts
  have hparts : [a, b].filterMap (fun q => q.filter (· ≠ "")) = parts := by
    unfold parts
    rw [List.filter_append, ← Option.toList_filter, ← Option.toList_filter, List.filterMap_cons,
      List.filterMap_cons, List.filterMap_nil]
    cases a.filter (· ≠ "") <;> cases b.filter (· ≠ "") <;> rfl
  unfold joinQueries
  rw [hparts]
  cases parts <;> rfl

/-! ### Targets -/

namespace Director

variable {uri : Uri}

/-- A workload of the rack is asked for the path and the query as they are written, or for the root
if there is neither. -/
theorem pathAndQuery_rack_eq (huri : uri.IsProper) :
    rack.pathAndQuery uri =
      if uri.pathText = "" ∧ uri.query = none then "/" else written uri.pathText uri.query := by
  unfold pathAndQuery Uri.pathAndQuery?
  by_cases halone : uri.scheme.isSome ∨ uri.authority = ""
  · cases hquery : uri.query <;> simp [halone, written]
  · simp only [not_or, Option.not_isSome_iff_eq_none] at halone
    obtain ⟨hpath, hquery⟩ := huri halone.1 halone.2
    simp [halone, hpath, hquery]

/-- A direct backend is asked for both paths with both queries. -/
theorem pathAndQuery_direct (basePath : String) (baseQuery : Option String) (uri : Uri) :
    pathAndQuery (.direct basePath baseQuery) uri =
      written (joinPaths basePath uri.path) (joinQueries baseQuery uri.query) := by
  unfold pathAndQuery
  dsimp only
  cases joinQueries baseQuery uri.query with
  | none => exact String.append_empty
  | some q => exact String.append_assoc.symm

/-- The text that a direct backend is asked for is cut into the joined path and the joined query. -/
theorem cutFirst_pathAndQuery {basePath : String} (hbase : '?' ∉ basePath.toList)
    (baseQuery : Option String) (hpath : '?' ∉ uri.path.toList) :
    Text.cutFirst '?' ((direct basePath baseQuery).pathAndQuery uri).toList =
      (joinQueries baseQuery uri.query).map fun q =>
        ((joinPaths basePath uri.path).toList, q.toList) := by
  rw [pathAndQuery_direct]
  refine Uri.cutFirst_written (fun hmem => ?_) _
  rcases mem_joinPaths hmem with hmem | heq | hmem
  · exact hbase hmem
  · exact absurd heq (by decide)
  · exact hpath hmem

/-- The text that a backend is asked for, for every base path without a question mark, every base
query and every inbound target whose path is free of question marks.

A direct backend is asked for a path and a query. The path is the base path without a slash at its
end, a slash, and the inbound path without a slash at its start; so an empty base path, or a slash
alone, leaves a rooted path as it is. The query is made of the base query and the inbound query, in
this order, as far as they are there and not empty, with an ampersand between them; if there is
none, there is no question mark. A workload of the rack is asked for the inbound path and query as
they are written, or for the root if there is neither. -/
theorem asked_of_inbound {basePath : String} (hbase : '?' ∉ basePath.toList)
    (baseQuery : Option String) (hpath : '?' ∉ uri.path.toList) (huri : uri.IsProper) :
    let asked := (direct basePath baseQuery).pathAndQuery uri
    let path := withoutFinal '/' basePath.toList ++ '/' :: withoutFirst '/' uri.path.toList
    let parts := (baseQuery.toList ++ uri.query.toList).filter (· ≠ "")
    (parts ≠ [] →
      Text.cutFirst '?' asked.toList = some (path, ("&".intercalate parts).toList)) ∧
    (parts = [] → asked.toList = path ∧ '?' ∉ asked.toList) ∧
    (basePath = "" ∨ basePath = "/" → IsRooted uri.path → path = uri.path.toList) ∧
    rack.pathAndQuery uri =
      if uri.pathText = "" ∧ uri.query = none then "/" else written uri.pathText uri.query := by
  intro asked path parts
  have hjoin : (joinPaths basePath uri.path).toList = path := toList_joinPaths _ _
  have hcut : Text.cutFirst '?' asked.toList = (joinQueries baseQuery uri.query).map fun q =>
      (path, q.toList) := hjoin ▸ cutFirst_pathAndQuery hbase baseQuery hpath
  have hqueries : joinQueries baseQuery uri.query =
      if parts = [] then none else some ("&".intercalate parts) := joinQueries_eq _ _
  refine ⟨fun hparts => ?_, fun hparts => ⟨?_, ?_⟩, fun hbase hrooted => ?_,
    pathAndQuery_rack_eq huri⟩
  · rw [hcut, hqueries, if_neg hparts, Option.map_some]
  · rw [if_pos hparts] at hqueries
    have hasked : asked = joinPaths basePath uri.path := by
      rw [show asked = _ from pathAndQuery_direct .., hqueries, written]
    rw [hasked, hjoin]
  · rw [← Text.cutFirst_eq_none_iff, hcut, hqueries, if_pos hparts, Option.map_none]
  · rw [← hjoin, joinPaths_of_isRooted hbase hrooted]

/-- A base path that ends in a slash meets a rooted path, and both queries are there; the second one
has marks of its own. -/
theorem asked_of_users :
    ∃ target uri, Url.parse "tcp://backend:8080/api/?v=2" = .ok target ∧
      Uri.parse? "/users?id=1&x?y" = some uri ∧
      ofTarget target = direct "/api/" (some "v=2") ∧
      (ofTarget target).pathAndQuery uri = "/api/users?v=2&id=1&x?y" ∧
      Text.cutFirst '?' ((ofTarget target).pathAndQuery uri).toList =
        some ("/api/users".toList, "v=2&id=1&x?y".toList) ∧
      rack.pathAndQuery uri = "/users?id=1&x?y" := by
  let target : Url :=
    ⟨"tcp", some ⟨"", none, some (.name "backend"), some 8080⟩, "/api/", some "v=2", none⟩
  let uri : Uri := ⟨none, "", "/users", some "id=1&x?y"⟩
  have htarget : Url.parse "tcp://backend:8080/api/?v=2" = .ok target := by decide +kernel
  have huri : Uri.parse? "/users?id=1&x?y" = some uri := by decide +kernel
  have hform : uri.Form := (Uri.form_of_parse? huri).1
  obtain ⟨hcut, -, -, hrack⟩ := asked_of_inbound (Url.isFormed_of_parse htarget).path.1 target.query
    hform.isPath.question_notMem hform.isProper
  refine ⟨target, uri, htarget, huri, rfl, by decide +kernel, (hcut (by decide)).trans ?_, hrack⟩
  decide +kernel

end Director

end Gatehouse
