import Gatehouse.Proofs.Forwarding.Traffic
import Gatehouse.Proofs.Forwarding.Upgrade
import Gatehouse.Proofs.Http.Stripping

/-!
# Fields that concern one hop

Some fields of a request concern the hop from the client to the router only: those of a fixed list,
and those that the `Connection` fields nominate. No value that a client gives them is sent with a
plain request. With an opening handshake they are sent, unless they belong to the fields that
negotiate a WebSocket connection.

## Main definitions

* `Headers.IsHopField` : a name that concerns the hop from the client only.
* `HttpForwarder.ownFields` : the fields that the router makes by itself.

## Main results

* `HttpForwarder.values_outbound_eq` : what is left of a plain request.
* `HttpForwarder.values_opening` : what an opening handshake is sent with.
* `Request.values_deliver` : what framing adds to the fields.
* `HttpForwarder.hop_fields_of_request` : the fields that a backend receives.
-/

namespace Gatehouse

/-- A name concerns the hop from the client only: it is one of the list, or nominated. The host is
not up to a nomination. -/
def Headers.IsHopField (h : Headers) (name : String) : Prop :=
  name ∈ HeaderFilter.hopByHop.denied ∨ name ∈ h.nominated ∧ name ≠ "host"

/-! ### Adding fields -/

namespace Forwarded

theorem values_appendText (h : Headers) (field text name : String) :
    (appendText h field text).values name =
      h.values name ++ if field = name then (HeaderValue.ofText? text).toList else [] := by
  unfold appendText
  cases HeaderValue.ofText? text <;> simp [Headers.values_append]

/-- What is told about the inbound hop is added behind what is there. -/
theorem values_apply (forwarded : Forwarded) (h : Headers) (name : String) :
    (forwarded.apply h).values name = h.values name ++ (forwarded.apply .empty).values name := by
  simp only [apply, values_appendText, List.append_assoc, Headers.values_empty, List.nil_append]

/-- The names of the fields that tell about the inbound hop. -/
def names : List String := ["x-forwarded-for", "x-forwarded-port", "x-forwarded-proto"]

theorem values_apply_of_not_mem (forwarded : Forwarded) (h : Headers) {name : String}
    (hname : name ∉ names) : (forwarded.apply h).values name = h.values name := by
  simp only [names, List.mem_cons, List.not_mem_nil, or_false, not_or] at hname
  simp [apply, values_appendText, Ne.symm hname.1, Ne.symm hname.2.1, Ne.symm hname.2.2]

end Forwarded

namespace HttpForwarder

/-! ### Plain requests -/

theorem values_withHost {name : String} (hname : name ≠ "host") (uri : Uri) (h : Headers) :
    (withHost uri h).values name = h.values name := by
  unfold withHost
  split
  next => rfl
  next =>
    split
    next => rw [Headers.values_insert, if_neg hname]
    next => rfl

theorem nominated_withHost (uri : Uri) (h : Headers) :
    (withHost uri h).nominated = h.nominated := by
  unfold Headers.nominated
  rw [values_withHost (by decide)]

/-- A plain request is sent with what stripping leaves, and with the router's own values behind. -/
theorem values_outbound_eq (f : HttpForwarder) (forwarded : Forwarded) (r : Request)
    (name : String) :
    (f.outbound forwarded r).headers.values name =
      (if name ∈ HeaderFilter.hopByHop.denied ∨ name ∈ r.headers.nominated then []
        else (withHost r.uri r.headers).values name) ++ (forwarded.apply .empty).values name := by
  rw [outbound, Forwarded.values_apply, HeaderFilter.values_strip, nominated_withHost]

/-- A plain request is sent without the values of the client for fields that concern its hop. -/
theorem values_outbound (f : HttpForwarder) (forwarded : Forwarded) (r : Request) {name : String}
    (hname : r.headers.IsHopField name) :
    (f.outbound forwarded r).headers.values name = (forwarded.apply .empty).values name := by
  rw [values_outbound_eq, if_pos (hname.imp_right And.left), List.nil_append]

/-! ### Opening handshakes -/

/-- What passes to an opening handshake are the values that negotiate nothing, apart from the host.
The host is that of the endpoint. -/
theorem values_handshakeHeaders (f : HttpForwarder) (forwarded : Forwarded) (h : Headers)
    (name : String) :
    (f.handshakeHeaders forwarded h).values name =
      (if HeaderFilter.webSocket.allows name ∧ name ≠ "host" then h.values name else []) ++
        ((if name = "host" then (HeaderValue.ofText? f.host).toList else []) ++
          (forwarded.apply .empty).values name) := by
  rw [handshakeHeaders, Forwarded.values_apply, ← List.append_assoc]
  congr 1
  cases HeaderValue.ofText? f.host with
  | none =>
    by_cases hname : name = "host"
    · simp [hname, Headers.values_remove]
    · simp [hname, Headers.values_remove, HeaderFilter.apply, Headers.values_filter]
  | some value =>
    by_cases hname : name = "host"
    · simp [hname, Headers.values_insert]
    · simp [hname, Headers.values_insert, Headers.values_remove, HeaderFilter.apply,
        Headers.values_filter]

/-- The names of the fields that make a request an opening handshake. -/
def openingNames : List String :=
  ["upgrade", "connection", "sec-websocket-version", "sec-websocket-key"]

theorem values_openingHeaders (key : Bytes) (h : Headers) (name : String) :
    (openingHeaders key h).values name =
      if name ∈ openingNames then (openingHeaders key .empty).values name else h.values name := by
  simp only [openingHeaders, Headers.values_insert, openingNames, List.mem_cons,
    List.not_mem_nil, or_false, Headers.values_empty]
  grind

theorem allows_of_mem_openingNames {name : String} (hname : name ∈ openingNames) :
    HeaderFilter.webSocket.allows name = false := by
  simp only [openingNames, List.mem_cons, List.not_mem_nil, or_false] at hname
  rcases hname with rfl | rfl | rfl | rfl <;> decide

/-- An opening handshake is sent with the values of the client for all fields that negotiate
nothing, apart from the host. The rest is made by the router. -/
theorem values_opening {f : HttpForwarder} {forwarded : Forwarded} {key : Bytes}
    {r request : Request} (hopening : f.opening forwarded key r = some request) (name : String) :
    request.headers.values name =
      (if HeaderFilter.webSocket.allows name ∧ name ≠ "host" then r.headers.values name else []) ++
        (openingHeaders key (f.handshakeHeaders forwarded .empty)).values name := by
  obtain ⟨uri, -, rfl⟩ := Option.map_eq_some_iff.1 hopening
  rw [values_openingHeaders, values_openingHeaders key (f.handshakeHeaders forwarded .empty)]
  by_cases hname : name ∈ openingNames
  · simp [hname, allows_of_mem_openingNames hname]
  · rw [if_neg hname, if_neg hname, values_handshakeHeaders,
      values_handshakeHeaders f forwarded .empty]
    simp

end HttpForwarder

/-! ### What a backend receives -/

/-- What framing does to the fields. -/
theorem framedHeaders_cases (method : String) (h : Headers) (body : RequestBody) :
    framedHeaders method h body = h ∨
    (∃ n : Nat, framedHeaders method h body =
      h.insert "content-length" (Bytes.ofText (toString n))) ∨
    framedHeaders method h body = h.remove "transfer-encoding" ∨
    framedHeaders method h body = h.insert "transfer-encoding" (Bytes.ofText "chunked") := by
  unfold framedHeaders
  split
  next => exact .inr (.inr (.inl rfl))
  next data _ =>
    split
    next => exact .inl rfl
    next => exact .inr (.inl ⟨data.length, rfl⟩)
  next =>
    split
    next => exact .inl rfl
    next => exact .inr (.inr (.inr rfl))

/-- Framing leaves all fields as they are, except that it may tell the length of the body, or how
the body is transferred. -/
theorem Request.values_deliver {request : Request} {delivery : Delivery}
    (h : request.deliver = some delivery) (name : String) :
    delivery.headers.values name = request.headers.values name ∨
    name = "content-length" ∧ (∃ n : Nat,
      delivery.headers.values name = [Bytes.ofText (toString n)]) ∨
    name = "transfer-encoding" ∧ (delivery.headers.values name = [] ∨
      delivery.headers.values name = [Bytes.ofText "chunked"]) := by
  obtain ⟨body, -, rfl⟩ := Option.map_eq_some_iff.1 h
  show (framedHeaders request.method request.headers request.body).values name = _ ∨ _
  rcases framedHeaders_cases request.method request.headers request.body with
    hsame | ⟨n, hlength⟩ | hremoved | hchunked
  · exact .inl (by rw [hsame])
  · by_cases hname : name = "content-length"
    · exact .inr (.inl ⟨hname, n, by simp [Request.announced, hlength, hname,
        Headers.values_insert]⟩)
    · exact .inl (by simp [hlength, hname, Headers.values_insert])
  · by_cases hname : name = "transfer-encoding"
    · exact .inr (.inr ⟨hname, .inl (by simp [Request.announced, hremoved, hname,
        Headers.values_remove])⟩)
    · exact .inl (by simp [hremoved, hname, Headers.values_remove])
  · by_cases hname : name = "transfer-encoding"
    · exact .inr (.inr ⟨hname, .inr (by simp [Request.announced, hchunked, hname,
        Headers.values_insert])⟩)
    · exact .inl (by simp [hchunked, hname, Headers.values_insert])

theorem Request.values_deliver_of_ne {request : Request} {delivery : Delivery}
    (h : request.deliver = some delivery) {name : String} (hlength : name ≠ "content-length")
    (hcoding : name ≠ "transfer-encoding") :
    delivery.headers.values name = request.headers.values name := by
  rcases request.values_deliver h name with hsame | ⟨hname, -⟩ | ⟨hname, -⟩
  · exact hsame
  · exact absurd hname hlength
  · exact absurd hname hcoding

namespace HttpForwarder

variable {τ : Type} {f : HttpForwarder} {forwarded : Forwarded} {key : Bytes} {r request : Request}

/-- The fields that the router makes by itself. -/
def ownFields (f : HttpForwarder) (forwarded : Forwarded) (key : Bytes) (r : Request) : Headers :=
  if asksForWebSocket r.method r.headers then
    openingHeaders key (f.handshakeHeaders forwarded .empty)
  else forwarded.apply .empty

/-- The router makes fields that tell about the inbound hop, and for an opening handshake the host
and the fields that negotiate. -/
theorem mem_names_of_ownFields {name : String}
    (hname : (f.ownFields forwarded key r).values name ≠ []) :
    name ∈ Forwarded.names ∨
      asksForWebSocket r.method r.headers = true ∧ name ∈ "host" :: openingNames := by
  refine Decidable.or_iff_not_imp_left.2 fun hforwarded => ?_
  unfold ownFields at hname
  split at hname
  next hasks =>
    refine ⟨hasks, Decidable.byContradiction fun hother => hname ?_⟩
    rw [List.mem_cons, not_or] at hother
    rw [values_openingHeaders, if_neg hother.2, values_handshakeHeaders,
      Forwarded.values_apply_of_not_mem _ _ hforwarded, if_neg hother.1]
    simp
  next =>
    rw [Forwarded.values_apply_of_not_mem _ _ hforwarded] at hname
    exact absurd rfl hname

theorem sent?_of_plain (hasks : asksForWebSocket r.method r.headers = false) :
    f.sent? forwarded key r = some (f.outbound forwarded r) := by
  simp [sent?, hasks]

/-- A plain request is sent with the router's own values for the fields that concern the hop from
the client. -/
theorem values_sent_of_plain (hasks : asksForWebSocket r.method r.headers = false)
    (hsent : f.sent? forwarded key r = some request) {name : String}
    (hname : r.headers.IsHopField name) :
    request.headers.values name = (f.ownFields forwarded key r).values name := by
  rw [sent?_of_plain hasks, Option.some.injEq] at hsent
  subst hsent
  simp [values_outbound f forwarded r hname, ownFields, hasks]

/-- An opening handshake is sent with the client's values for the fields that negotiate nothing,
apart from the host, and with the router's own values. -/
theorem values_sent_of_webSocket (hasks : asksForWebSocket r.method r.headers = true)
    (hsent : f.sent? forwarded key r = some request) (name : String) :
    request.headers.values name =
      (if HeaderFilter.webSocket.allows name ∧ name ≠ "host" then r.headers.values name else []) ++
        (f.ownFields forwarded key r).values name := by
  simp only [sent?, hasks, if_true] at hsent
  simp only [ownFields, hasks, if_true, values_opening hsent name]

theorem ne_host_of_isHopField {h : Headers} {name : String} (hname : h.IsHopField name) :
    name ≠ "host" := by
  rcases hname with hname | ⟨-, hname⟩
  · rintro rfl
    revert hname
    decide
  · exact hname

/-- An opening handshake is free of the client's values for the fields that concern its hop just if
the client has given none to those of these fields that negotiate nothing. -/
theorem forall_values_sent_eq_iff (hasks : asksForWebSocket r.method r.headers = true)
    (hsent : f.sent? forwarded key r = some request) :
    (∀ name, r.headers.IsHopField name →
        request.headers.values name = (f.ownFields forwarded key r).values name) ↔
      ∀ name, r.headers.IsHopField name → HeaderFilter.webSocket.allows name = true →
        r.headers.values name = [] := by
  refine forall_congr' fun name => forall_congr' fun hname => ?_
  rw [values_sent_of_webSocket hasks hsent name, List.append_left_eq_self]
  simp [ne_host_of_isHopField hname]

/-- The fields that a request is sent with and that a backend receives.

For the fields that concern the hop from the client, a plain request is sent with the router's own
values, which tell about the inbound hop. An opening handshake is sent with the client's values for
all fields that do not negotiate a WebSocket connection, apart from the host; so it is free of
those that concern the hop from the client just if the client has given none to the others of these
fields. What the router makes by itself are the fields that tell about the inbound hop, and for an
opening handshake the host and those that negotiate. A backend receives the fields that are sent,
with the body framed. -/
theorem hop_fields_of_request (f : HttpForwarder) (resolver : Resolver τ)
    (servers : BackendStream τ → BackendServer) (draws : Draws) (key : Bytes)
    (peer : SocketAddress) (port : Nat) (r : Request) :
    let forwarded : Forwarded := ⟨peer, port, f.listenScheme⟩
    let asks := asksForWebSocket r.method r.headers
    let own := f.ownFields forwarded key r
    (∀ request, f.sent? forwarded key r = some request →
      (asks = false → ∀ name, r.headers.IsHopField name →
        request.headers.values name = own.values name) ∧
      (asks = true → ∀ name, request.headers.values name =
        (if HeaderFilter.webSocket.allows name ∧ name ≠ "host" then r.headers.values name
          else []) ++ own.values name) ∧
      (asks = true → ((∀ name, r.headers.IsHopField name →
          request.headers.values name = own.values name) ↔
        ∀ name, r.headers.IsHopField name → HeaderFilter.webSocket.allows name = true →
          r.headers.values name = []))) ∧
    (∀ name, own.values name ≠ [] →
      name ∈ Forwarded.names ∨ asks = true ∧ name ∈ "host" :: openingNames) ∧
    ∀ delivery, (f.handle resolver servers draws key peer port r).delivery = some delivery →
      ∃ request, f.sent? forwarded key r = some request ∧ ∀ name,
        delivery.headers.values name = request.headers.values name ∨
        name = "content-length" ∧ (∃ n : Nat,
          delivery.headers.values name = [Bytes.ofText (toString n)]) ∨
        name = "transfer-encoding" ∧ (delivery.headers.values name = [] ∨
          delivery.headers.values name = [Bytes.ofText "chunked"]) := by
  intro forwarded asks own
  refine ⟨fun request hsent => ⟨fun hasks name => values_sent_of_plain hasks hsent,
    fun hasks name => values_sent_of_webSocket hasks hsent name,
    fun hasks => forall_values_sent_eq_iff hasks hsent⟩,
    fun name => mem_names_of_ownFields, fun delivery hdelivery => ?_⟩
  have htraffic := traffic_of_handle f resolver servers draws key peer port r
  rw [hdelivery] at htraffic
  obtain ⟨_, request, -, hsent, hdeliver⟩ := htraffic.exists_sent
  exact ⟨request, hsent, request.values_deliver hdeliver⟩

/-- An opening handshake of a client with credentials for the router, and with a field of its own
that is not to pass on. -/
def credentialRequest : Request :=
  { chatRequest with
    headers := ((chatRequest.headers.append "connection" (Bytes.ofText "Upgrade, X-Private")).append
      "proxy-authorization" (Bytes.ofText "Basic Zm9v")).append "x-private"
      (Bytes.ofText "secret") }

/-- What a backend receives for a request of a client, for one field. -/
def receivedValues (server : BackendServer) (r : Request) (name : String) :
    Option (List Bytes) :=
  (rackForwarder.handle rackResolver (fun _ => server) (fun _ => 0) chatKey
    ⟨.v4 ⟨10, 0, 0, 7⟩, 51234⟩ 80 r).delivery.map (·.headers.values name)

/-- Both fields concern the hop from the client. A backend receives them with an opening handshake,
but not with a plain request. -/
theorem receives_credentials :
    create ⟨"http", none, "", none, none⟩ rackUpstream "a.test" = .ok rackForwarder ∧
    credentialRequest.headers.IsHopField "proxy-authorization" ∧
    credentialRequest.headers.IsHopField "x-private" ∧
    receivedValues chatServer credentialRequest "proxy-authorization" =
      some [Bytes.ofText "Basic Zm9v"] ∧
    receivedValues chatServer credentialRequest "x-private" = some [Bytes.ofText "secret"] ∧
    receivedValues silentServer { credentialRequest with method := "POST" }
      "proxy-authorization" = some [] ∧
    receivedValues silentServer { credentialRequest with method := "POST" } "x-private" =
      some [] := by
  refine ⟨rfl, .inl (by decide), .inr ⟨by decide +kernel, by decide⟩, ?_⟩
  decide +kernel

end HttpForwarder

end Gatehouse
