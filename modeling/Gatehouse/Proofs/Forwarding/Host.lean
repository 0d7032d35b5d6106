import Gatehouse.Proofs.Forwarding.Opening
import Gatehouse.Proofs.Forwarding.Security
import Gatehouse.Proofs.Http.VisibleText

/-!
# The host that backends are told

A plain request is sent with the host that the client names, in its fields or else as the authority
of its target. A `Connection` field that lists the host takes it away again: the request is then
sent without any. This holds for every target, those in the rack included, so that there the client
decides on the host of its plain requests, while an opening handshake is always received with the
host of the endpoint.

## Main definitions

* `Request.namedHosts` : the hosts that a request names.

## Main results

* `HttpForwarder.values_host_outbound` : the host that a plain request is sent with.
* `HttpForwarder.host_of_plain_request` : when the host of a plain request is kept.
* `HttpForwarder.values_host_of_webSocket` : the host of an opening handshake in the rack.
* `HttpForwarder.host_of_rack_request` : the hosts that the workloads of the rack are told.
-/

namespace Gatehouse

/-! ### Naming hosts -/

/-- The hosts that a request names: those of its fields, or else the authority of its target. -/
def Request.namedHosts (r : Request) : List Bytes :=
  if r.headers.values "host" ≠ [] then r.headers.values "host"
  else if r.uri.authority = "" then []
  else (HeaderValue.ofText? r.uri.authority).toList

theorem HeaderValue.toList_ofText?_ne_nil_iff {text : String} :
    (HeaderValue.ofText? text).toList ≠ [] ↔ HeaderValue.isValid (Bytes.ofText text) = true := by
  rw [ofText?]
  split
  next hvalid => simp [hvalid]
  next hvalid => simp [hvalid]

/-- A request names a host just if it has a field for it, or a target with an authority that is a
value. -/
theorem Request.namedHosts_ne_nil_iff {r : Request} :
    r.namedHosts ≠ [] ↔ r.headers.values "host" ≠ [] ∨
      r.uri.authority ≠ "" ∧ HeaderValue.isValid (Bytes.ofText r.uri.authority) = true := by
  unfold namedHosts
  split
  next hfields => simp [hfields]
  next hfields =>
    split
    next hauthority => simp [hfields, hauthority]
    next hauthority =>
      simp only [hfields, hauthority, HeaderValue.toList_ofText?_ne_nil_iff, false_or, ne_eq,
        not_false_eq_true, true_and]

/-- A plain request that names some hosts and has no other fields. -/
def Request.ofHosts (hosts : List Bytes) : Request where
  method := "GET"
  uri := ⟨none, "", "/", none⟩
  headers := ⟨hosts.map (Header.mk "host")⟩
  body := .sized []
  version := .v11

theorem Request.values_ofHosts (hosts : List Bytes) (name : String) :
    (ofHosts hosts).headers.values name = if name = "host" then hosts else [] := by
  by_cases hname : name = "host"
  · simp [ofHosts, Headers.values, hname, List.filter_map, Function.comp_def]
  · simp [ofHosts, Headers.values, hname, Ne.symm hname]

theorem Request.namedHosts_ofHosts (hosts : List Bytes) : (ofHosts hosts).namedHosts = hosts := by
  rw [namedHosts, values_ofHosts, if_pos rfl]
  by_cases hhosts : hosts = []
  · simp [ofHosts, hhosts]
  · rw [if_pos hhosts]

theorem Request.asksForWebSocket_ofHosts (hosts : List Bytes) :
    asksForWebSocket (ofHosts hosts).method (ofHosts hosts).headers = false := by
  simp [asksForWebSocket, values_ofHosts]

theorem Request.nominates_ofHosts (hosts : List Bytes) (name : String) :
    (ofHosts hosts).headers.nominates name = false := by
  simp [Headers.nominates, values_ofHosts]

namespace HttpForwarder

variable {τ : Type} {f : HttpForwarder} {resolver : Resolver τ}
  {servers : BackendStream τ → BackendServer} {draws : Draws} {key : Bytes} {peer : SocketAddress}
  {port : Nat} {r : Request}

/-! ### Plain requests -/

theorem values_host_withHost (r : Request) :
    (withHost r.uri r.headers).values "host" = r.namedHosts := by
  unfold withHost Request.namedHosts
  simp only [Headers.contains_iff]
  by_cases hfields : r.headers.values "host" = []
  · have hnone : ¬ r.headers.values "host" ≠ [] := fun h => h hfields
    rw [if_neg hnone]
    by_cases hauthority : r.uri.authority = ""
    · rw [if_pos (.inr hauthority), if_pos hauthority, hfields]
    · rw [if_neg (not_or.2 ⟨hnone, hauthority⟩), if_neg hauthority]
      cases HeaderValue.ofText? r.uri.authority with
      | none => exact hfields
      | some value => exact (Headers.values_insert ..).trans (if_pos rfl)
  · rw [if_pos (.inl hfields), if_pos hfields]

/-- A plain request is sent with the hosts that it names, unless the host is nominated. -/
theorem values_host_outbound (f : HttpForwarder) (forwarded : Forwarded) (r : Request) :
    (f.outbound forwarded r).headers.values "host" =
      if r.headers.nominates "host" then [] else r.namedHosts := by
  have hnominated : "host" ∈ r.headers.nominated ↔ r.headers.nominates "host" = true :=
    Headers.mem_nominated_iff (by decide)
  have hdenied : "host" ∉ HeaderFilter.hopByHop.denied := by decide
  have hown : (forwarded.apply .empty).values "host" = [] :=
    Forwarded.values_apply_of_not_mem forwarded .empty (by decide)
  rw [values_outbound_eq, hown, List.append_nil, values_host_withHost]
  simp only [hdenied, hnominated, false_or]

/-- A backend receives a plain request with the hosts that it is sent with. -/
theorem values_host_of_plain (hasks : asksForWebSocket r.method r.headers = false)
    {delivery : Delivery}
    (hdelivery : (f.handle resolver servers draws key peer port r).delivery = some delivery) :
    delivery.headers.values "host" = if r.headers.nominates "host" then [] else r.namedHosts := by
  obtain ⟨request, hsent, hdeliver⟩ := exists_sent_of_delivery hdelivery
  rw [sent?_of_plain hasks, Option.some.injEq] at hsent
  rw [Request.values_deliver_of_ne hdeliver (by decide) (by decide), ← hsent, values_host_outbound]

/-- The host of a plain request.

A request names a host just if it has fields for it, or a target with an authority that is a value;
the fields come first. A plain request is always sent. It is sent and received with the hosts that
it names, unless one of its `Connection` fields lists the host in any letter case; then it is sent
and received without a host. So if a request names a host, it keeps it just if no such field lists
the host, whatever else it contains. -/
theorem host_of_plain_request (f : HttpForwarder) (resolver : Resolver τ)
    (servers : BackendStream τ → BackendServer) (draws : Draws) (key : Bytes)
    (peer : SocketAddress) (port : Nat) (r : Request)
    (hasks : asksForWebSocket r.method r.headers = false) :
    (r.namedHosts ≠ [] ↔ r.headers.values "host" ≠ [] ∨
      r.uri.authority ≠ "" ∧ HeaderValue.isValid (Bytes.ofText r.uri.authority) = true) ∧
    (r.headers.values "host" ≠ [] → r.namedHosts = r.headers.values "host") ∧
    (∃ request, f.sent? ⟨peer, port, f.listenScheme⟩ key r = some request ∧
      request.headers.values "host" =
        if r.headers.nominates "host" then [] else r.namedHosts) ∧
    ∀ delivery, (f.handle resolver servers draws key peer port r).delivery = some delivery →
      (delivery.headers.values "host" =
        if r.headers.nominates "host" then [] else r.namedHosts) ∧
      (r.namedHosts ≠ [] → (delivery.headers.values "host" = r.namedHosts ↔
        r.headers.nominates "host" = false)) := by
  refine ⟨Request.namedHosts_ne_nil_iff, fun hfields => if_pos hfields,
    ⟨_, sent?_of_plain hasks, values_host_outbound f _ r⟩, fun delivery hdelivery => ?_⟩
  have hvalues := values_host_of_plain hasks hdelivery
  refine ⟨hvalues, fun hnamed => ?_⟩
  rw [hvalues]
  cases r.headers.nominates "host" with
  | true => simp [Ne.symm hnamed]
  | false => simp

/-- A server that answers every request, without TLS. -/
def siteServer : BackendServer where
  tls := .plain
  early _ := none
  answer _ := some (.ofBytes (Bytes.ofText "HTTP/1.1 200 OK\r\ncontent-length: 0\r\n\r\n"))

/-- A plain request for a host, with a value for `Connection`. -/
def hostRequest (host connection : String) : Request where
  method := "GET"
  uri := ⟨none, "", "/", none⟩
  headers := (Headers.empty.append "host" (Bytes.ofText host)).append "connection"
    (Bytes.ofText connection)
  body := .sized []
  version := .v11

theorem host_of_hostRequest :
    asksForWebSocket (hostRequest "b.test" "close").method (hostRequest "b.test" "close").headers =
      false ∧
    ∃ delivery, (siteForwarder.handle directResolver (fun _ => siteServer) (fun _ => 0) chatKey
        ⟨.v4 ⟨10, 0, 0, 7⟩, 51234⟩ 80 (hostRequest "b.test" "close")).delivery = some delivery ∧
      delivery.headers.values "host" = [Bytes.ofText "b.test"] := by
  have hasks : asksForWebSocket (hostRequest "b.test" "close").method
      (hostRequest "b.test" "close").headers = false := by decide +kernel
  obtain ⟨-, hfirst, -, hreceived⟩ := host_of_plain_request siteForwarder directResolver
    (fun _ => siteServer) (fun _ => 0) chatKey ⟨.v4 ⟨10, 0, 0, 7⟩, 51234⟩ 80 _ hasks
  obtain ⟨delivery, hdelivery⟩ := Option.isSome_iff_exists.1 (show (siteForwarder.handle
    directResolver (fun _ => siteServer) (fun _ => 0) chatKey ⟨.v4 ⟨10, 0, 0, 7⟩, 51234⟩ 80
    (hostRequest "b.test" "close")).delivery.isSome = true by decide +kernel)
  have hnamed : (hostRequest "b.test" "close").namedHosts = [Bytes.ofText "b.test"] :=
    hfirst (by decide +kernel)
  refine ⟨hasks, delivery, hdelivery, ?_⟩
  rw [((hreceived delivery hdelivery).2 (by simp [hnamed])).2 (by decide +kernel), hnamed]

/-- A plain request to a direct target that names a host is received without one, since it also
nominates the host. -/
theorem received_without_host :
    create ⟨"http", none, "", none, none⟩ siteUpstream "a.test" = .ok siteForwarder ∧
    siteUpstream.isRackTarget = false ∧
    asksForWebSocket (hostRequest "b.test" "Host").method (hostRequest "b.test" "Host").headers =
      false ∧
    (hostRequest "b.test" "Host").headers.values "host" = [Bytes.ofText "b.test"] ∧
    ((siteForwarder.handle directResolver (fun _ => siteServer) (fun _ => 0) chatKey
        ⟨.v4 ⟨10, 0, 0, 7⟩, 51234⟩ 80 (hostRequest "b.test" "Host")).delivery.map fun delivery =>
      (delivery.startLine, delivery.headers.values "host")) = some ("GET / HTTP/1.1", []) := by
  refine ⟨rfl, by decide, ?_⟩
  decide +kernel

/-! ### Targets in the rack -/

section Rack

variable {listen target : Url} {host : String}

/-- A session with a workload of the rack takes a host that is a value. -/
theorem isValid_host_of_session (h : create listen target host = .ok f)
    (hrack : target.isRackTarget = true)
    (hsession : (f.handle resolver servers draws key peer port r).session.isSome = true) :
    HeaderValue.isValid (Bytes.ofText f.host) = true := by
  obtain ⟨session, hsession⟩ := Option.isSome_iff_exists.1 hsession
  obtain ⟨name, hname, -⟩ := exists_name_of_session h hsession
  rw [Url.serverName, if_pos hrack] at hname
  obtain rfl := eq_mk_of_create h
  exact HeaderValue.isValid_of_isVisible (ServerName.isVisible_of_parse hname)

/-- An opening handshake is only made with a workload of the rack in a session. -/
theorem isSome_session_of_rack (h : create listen target host = .ok f)
    (hrack : target.isRackTarget = true) (hasks : asksForWebSocket r.method r.headers = true)
    {delivery : Delivery}
    (hdelivery : (f.handle resolver servers draws key peer port r).delivery = some delivery) :
    (f.handle resolver servers draws key peer port r).session.isSome = true := by
  rw [isSome_session_of_delivery h hdelivery, hrack, hasks]
  simp

/-- An opening handshake is sent to a workload of the rack with the host of the endpoint. -/
theorem values_host_of_sent_webSocket (h : create listen target host = .ok f)
    (hrack : target.isRackTarget = true) (hasks : asksForWebSocket r.method r.headers = true)
    (hsession : (f.handle resolver servers draws key peer port r).session.isSome = true)
    {request : Request} (hsent : f.sent? ⟨peer, port, f.listenScheme⟩ key r = some request) :
    request.headers.values "host" = [Bytes.ofText host] := by
  have hvalid := isValid_host_of_session h hrack hsession
  rw [sent?, if_pos hasks] at hsent
  have hopening := (isOpening_of_opening hvalid hsent).1
  obtain rfl := eq_mk_of_create h
  exact hopening.host

/-- An opening handshake is received in the rack with the host of the endpoint. -/
theorem values_host_of_webSocket (h : create listen target host = .ok f)
    (hrack : target.isRackTarget = true) (hasks : asksForWebSocket r.method r.headers = true)
    {delivery : Delivery}
    (hdelivery : (f.handle resolver servers draws key peer port r).delivery = some delivery) :
    delivery.headers.values "host" = [Bytes.ofText host] := by
  have hvalid := isValid_host_of_session h hrack (isSome_session_of_rack h hrack hasks hdelivery)
  have hopening := isOpening_of_delivery hvalid hasks hdelivery
  obtain rfl := eq_mk_of_create h
  exact hopening.host

/-- The hosts that the workloads of the rack are told.

A request for WebSocket is sent in a session, and received, with the host of the endpoint alone,
whatever it contains. A plain request is sent and received with the hosts that it names, unless the
host is nominated. So a workload that receives it is told the host of the endpoint alone just if
the client has chosen so, and a client can have it told any hosts, or none. -/
theorem host_of_rack_request (h : create listen target host = .ok f)
    (hrack : target.isRackTarget = true) (resolver : Resolver τ)
    (servers : BackendStream τ → BackendServer) (draws : Draws) (key : Bytes)
    (peer : SocketAddress) (port : Nat) :
    let forwarded : Forwarded := ⟨peer, port, f.listenScheme⟩
    let handling := f.handle resolver servers draws key peer port
    (∀ r, asksForWebSocket r.method r.headers = true →
      (∀ request, (handling r).session.isSome = true → f.sent? forwarded key r = some request →
        request.headers.values "host" = [Bytes.ofText host]) ∧
      ∀ delivery, (handling r).delivery = some delivery →
        delivery.headers.values "host" = [Bytes.ofText host]) ∧
    (∀ r, asksForWebSocket r.method r.headers = false →
      (∃ request, f.sent? forwarded key r = some request ∧ request.headers.values "host" =
        if r.headers.nominates "host" then [] else r.namedHosts) ∧
      ∀ delivery, (handling r).delivery = some delivery →
        (delivery.headers.values "host" = [Bytes.ofText host] ↔
          r.headers.nominates "host" = false ∧ r.namedHosts = [Bytes.ofText host])) ∧
    ∀ hosts : List Bytes, ∃ r, asksForWebSocket r.method r.headers = false ∧
      (∃ request, f.sent? forwarded key r = some request ∧
        request.headers.values "host" = hosts) ∧
      ∀ delivery, (handling r).delivery = some delivery →
        delivery.headers.values "host" = hosts := by
  intro forwarded handling
  refine ⟨fun r hasks => ⟨fun request hsession hsent => ?_, fun delivery hdelivery => ?_⟩,
    fun r hasks => ⟨⟨_, sent?_of_plain hasks, values_host_outbound f _ r⟩,
      fun delivery hdelivery => ?_⟩, fun hosts => ?_⟩
  · exact values_host_of_sent_webSocket h hrack hasks hsession hsent
  · exact values_host_of_webSocket h hrack hasks hdelivery
  · rw [values_host_of_plain hasks hdelivery]
    cases r.headers.nominates "host" <;> simp
  · have hasks := Request.asksForWebSocket_ofHosts hosts
    have hkept : (if (Request.ofHosts hosts).headers.nominates "host" then []
        else (Request.ofHosts hosts).namedHosts) = hosts := by
      rw [Request.nominates_ofHosts, Request.namedHosts_ofHosts]
      rfl
    refine ⟨Request.ofHosts hosts, hasks, ⟨_, sent?_of_plain hasks, ?_⟩,
      fun delivery hdelivery => ?_⟩
    · exact (values_host_outbound f _ _).trans hkept
    · exact (values_host_of_plain hasks hdelivery).trans hkept

theorem host_of_rack_chatRequest :
    create ⟨"http", none, "", none, none⟩ rackUpstream "a.test" = .ok rackForwarder ∧
    rackUpstream.isRackTarget = true ∧
    ∃ delivery, (rackForwarder.handle rackResolver (fun _ => chatServer) (fun _ => 0) chatKey
        ⟨.v4 ⟨10, 0, 0, 7⟩, 51234⟩ 80 chatRequest).delivery = some delivery ∧
      delivery.headers.values "host" = [Bytes.ofText "a.test"] := by
  have hcreate : create ⟨"http", none, "", none, none⟩ rackUpstream "a.test" =
      .ok rackForwarder := by rfl
  have hrack : rackUpstream.isRackTarget = true := by decide
  have hasks : asksForWebSocket chatRequest.method chatRequest.headers = true := by decide +kernel
  obtain ⟨hwebSocket, -⟩ := host_of_rack_request hcreate hrack rackResolver
    (fun _ => chatServer) (fun _ => 0) chatKey ⟨.v4 ⟨10, 0, 0, 7⟩, 51234⟩ 80
  obtain ⟨delivery, hdelivery⟩ := Option.isSome_iff_exists.1 (show (rackForwarder.handle
    rackResolver (fun _ => chatServer) (fun _ => 0) chatKey ⟨.v4 ⟨10, 0, 0, 7⟩, 51234⟩ 80
    chatRequest).delivery.isSome = true by decide +kernel)
  exact ⟨hcreate, hrack, delivery, hdelivery, (hwebSocket chatRequest hasks).2 delivery hdelivery⟩

/-- A workload of the rack is told the host that the client of a plain request names, and not that
of the endpoint. -/
theorem received_with_host_of_client :
    create ⟨"http", none, "", none, none⟩ rackUpstream "a.test" = .ok rackForwarder ∧
    rackUpstream.isRackTarget = true ∧
    ((rackForwarder.handle rackResolver (fun _ => siteServer) (fun _ => 0) chatKey
        ⟨.v4 ⟨10, 0, 0, 7⟩, 51234⟩ 80 (hostRequest "b.test" "close")).delivery.map fun delivery =>
      delivery.headers.values "host") = some [Bytes.ofText "b.test"] ∧
    [Bytes.ofText "b.test"] ≠ [Bytes.ofText "a.test"] := by
  refine ⟨rfl, by decide, ?_, by decide⟩
  decide +kernel

end Rack

end HttpForwarder

end Gatehouse
