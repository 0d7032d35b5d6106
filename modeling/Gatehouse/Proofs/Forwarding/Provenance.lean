import Gatehouse.Proofs.Forwarding.Host

/-!
# What backends are told about the inbound hop

A backend is told the address of the client, the port that it connected to and the scheme of the
listener. Each stands behind the values that the client itself has sent under the same name, or
alone if the client has nominated the name in a plain request. Nothing that a client sends can take
the last place.

## Main definitions

* `Headers.TellsHop` : the fields end with what is known about the inbound hop.
* `HttpForwarder.keptValues` : the values of a client that stay in front of it.

## Main results

* `Headers.TellsHop.of_values` : adding what is known behind all other values.
* `HttpForwarder.tellsHop_outbound`, `HttpForwarder.tellsHop_handshakeHeaders` : the two ways in
  which requests are made.
* `HttpForwarder.forwarded_of_request` : what a backend is told.
-/

namespace Gatehouse

/-- What is known about the inbound hop stands last in its fields, behind the values that are kept
for their names. -/
structure Headers.TellsHop (sent : Headers) (kept : String → List Bytes) (known : Forwarded) :
    Prop where
  peer : sent.values "x-forwarded-for" =
    kept "x-forwarded-for" ++ [Bytes.ofText (String.ofList known.peer.ip.text)]
  port : sent.values "x-forwarded-port" =
    kept "x-forwarded-port" ++ [Bytes.ofText (toString known.port)]
  proto : sent.values "x-forwarded-proto" =
    kept "x-forwarded-proto" ++ [Bytes.ofText known.proto]

/-- What is known is added to no fields as it is: addresses and ports can always be written, and a
visible scheme as well. -/
theorem Forwarded.tellsHop_apply_empty {known : Forwarded}
    (hproto : Text.IsVisible known.proto.toList) :
    (known.apply .empty).TellsHop (fun _ => []) known := by
  have hpeer : Text.IsVisible (String.ofList known.peer.ip.text).toList := by
    rw [String.toList_ofList]
    exact known.peer.ip.isVisible_text
  have hpeer := HeaderValue.ofText?_of_isVisible hpeer
  have hport := HeaderValue.ofText?_of_isVisible (Text.isVisible_toString known.port)
  have hproto := HeaderValue.ofText?_of_isVisible hproto
  constructor <;> simp only [apply, values_appendText, hpeer, hport, hproto] <;> rfl

/-- What is known stands last if it is added behind all other values. -/
theorem Headers.TellsHop.of_values {sent : Headers} {kept : String → List Bytes}
    {known : Forwarded} (hproto : Text.IsVisible known.proto.toList)
    (hvalues : ∀ name ∈ Forwarded.names,
      sent.values name = kept name ++ (known.apply .empty).values name) :
    sent.TellsHop kept known := by
  obtain ⟨hpeer, hport, hproto⟩ := Forwarded.tellsHop_apply_empty hproto
  constructor
  · rw [hvalues _ (by decide), hpeer, List.nil_append]
  · rw [hvalues _ (by decide), hport, List.nil_append]
  · rw [hvalues _ (by decide), hproto, List.nil_append]

/-- What is told stays the same if the values for its names do. -/
theorem Headers.TellsHop.congr {sent sent' : Headers} {kept kept' : String → List Bytes}
    {known : Forwarded} (h : sent.TellsHop kept known)
    (hsent : ∀ name ∈ Forwarded.names, sent'.values name = sent.values name)
    (hkept : ∀ name ∈ Forwarded.names, kept' name = kept name) : sent'.TellsHop kept' known where
  peer := by rw [hsent _ (by decide), h.peer, hkept _ (by decide)]
  port := by rw [hsent _ (by decide), h.port, hkept _ (by decide)]
  proto := by rw [hsent _ (by decide), h.proto, hkept _ (by decide)]

namespace HttpForwarder

variable {f : HttpForwarder} {known : Forwarded} {key : Bytes} {r request : Request}

/-- A plain request tells about the inbound hop behind the values of the client, as far as their
names are not nominated. -/
theorem tellsHop_outbound (hproto : Text.IsVisible known.proto.toList) :
    (f.outbound known r).headers.TellsHop
      (fun name => if r.headers.nominates name then [] else r.headers.values name) known := by
  have hdenied : ∀ name ∈ Forwarded.names, name ∉ HeaderFilter.hopByHop.denied := by decide
  have hhost : ∀ name ∈ Forwarded.names, name ≠ "host" := by decide
  have hread : ∀ name ∈ Forwarded.names, HeaderName.parse? name.toList = some name := by decide
  refine .of_values hproto fun name hname => ?_
  rw [values_outbound_eq, values_withHost (hhost name hname)]
  simp only [hdenied name hname, Headers.mem_nominated_iff (hread name hname), false_or]

/-- What passes to an opening handshake tells about the inbound hop behind all values of the
client. -/
theorem tellsHop_handshakeHeaders (hproto : Text.IsVisible known.proto.toList)
    (client : Headers) : (f.handshakeHeaders known client).TellsHop client.values known := by
  have hpasses : ∀ name ∈ Forwarded.names,
      HeaderFilter.webSocket.allows name = true ∧ name ≠ "host" := by decide
  refine .of_values hproto fun name hname => ?_
  rw [values_handshakeHeaders, if_pos (hpasses name hname), if_neg (hpasses name hname).2,
    List.nil_append]

/-- So does the opening handshake. -/
theorem tellsHop_opening (hproto : Text.IsVisible known.proto.toList)
    (hopening : f.opening known key r = some request) :
    request.headers.TellsHop r.headers.values known := by
  have hother : ∀ name ∈ Forwarded.names, name ∉ openingNames := by decide
  obtain ⟨uri, -, rfl⟩ := Option.map_eq_some_iff.1 hopening
  have hpassed := tellsHop_handshakeHeaders (f := f) hproto r.headers
  refine hpassed.congr (fun name hname => ?_) fun _ _ => rfl
  exact (values_openingHeaders key _ name).trans (if_neg (hother name hname))

/-- The values of a client that stay in front of what is told about the inbound hop. -/
def keptValues (r : Request) (name : String) : List Bytes :=
  if asksForWebSocket r.method r.headers = false ∧ r.headers.nominates name = true then []
  else r.headers.values name

/-- Every request that is sent tells about the inbound hop. -/
theorem tellsHop_of_sent (hproto : Text.IsVisible known.proto.toList)
    (hsent : f.sent? known key r = some request) :
    request.headers.TellsHop (keptValues r) known := by
  unfold keptValues
  cases hasks : asksForWebSocket r.method r.headers with
  | false =>
    rw [sent?_of_plain hasks, Option.some.injEq] at hsent
    rw [← hsent]
    exact (tellsHop_outbound hproto).congr (fun _ _ => rfl) fun name _ => by simp
  | true =>
    rw [sent?, if_pos hasks] at hsent
    exact (tellsHop_opening hproto hsent).congr (fun _ _ => rfl) fun name _ => by simp

variable {τ : Type} {resolver : Resolver τ} {servers : BackendStream τ → BackendServer}
  {draws : Draws} {peer : SocketAddress} {port : Nat}

/-- Every request that is received tells about the inbound hop. -/
theorem tellsHop_of_delivery (hproto : Text.IsVisible f.listenScheme.toList) {delivery : Delivery}
    (hdelivery : (f.handle resolver servers draws key peer port r).delivery = some delivery) :
    delivery.headers.TellsHop (keptValues r) ⟨peer, port, f.listenScheme⟩ := by
  have hlength : ∀ name ∈ Forwarded.names, name ≠ "content-length" := by decide
  have hcoding : ∀ name ∈ Forwarded.names, name ≠ "transfer-encoding" := by decide
  obtain ⟨request, hsent, hdeliver⟩ := exists_sent_of_delivery hdelivery
  exact (tellsHop_of_sent hproto hsent).congr (fun name hname =>
    Request.values_deliver_of_ne hdeliver (hlength name hname) (hcoding name hname)) fun _ _ => rfl

/-- What a backend is told about the inbound hop.

A plain request is always sent. Every request that is sent or received, and all fields that pass to
an opening handshake, have a last value for the address of the client, for the port and for the
scheme of the listener, whatever the client has sent. In front of it stand the values of the client
for the same name, in order: all of them, or none if a plain request nominates the name. -/
theorem forwarded_of_request {listen target : Url} {host : String} {f : HttpForwarder}
    (h : create listen target host = .ok f)
    (hscheme : listen.scheme = "http" ∨ listen.scheme = "https") (resolver : Resolver τ)
    (servers : BackendStream τ → BackendServer) (draws : Draws) (key : Bytes)
    (peer : SocketAddress) (port : Nat) (r : Request) :
    let known : Forwarded := ⟨peer, port, listen.scheme⟩
    (asksForWebSocket r.method r.headers = false →
      f.sent? known key r = some (f.outbound known r)) ∧
    (∀ request, f.sent? known key r = some request →
      request.headers.TellsHop (keptValues r) known) ∧
    (∀ delivery, (f.handle resolver servers draws key peer port r).delivery = some delivery →
      delivery.headers.TellsHop (keptValues r) known) ∧
    ∀ client : Headers, (f.handshakeHeaders known client).TellsHop client.values known := by
  intro known
  have hproto : Text.IsVisible listen.scheme.toList := by
    rcases hscheme with hscheme | hscheme <;> rw [hscheme] <;> decide
  obtain rfl := eq_mk_of_create h
  exact ⟨sent?_of_plain, fun request => tellsHop_of_sent hproto,
    fun delivery => tellsHop_of_delivery hproto, tellsHop_handshakeHeaders hproto⟩

/-- A plain request that claims to come from elsewhere, and nominates one of its claims. -/
def claimingRequest : Request where
  method := "GET"
  uri := ⟨none, "", "/", none⟩
  headers := ((Headers.empty.append "x-forwarded-for" (Bytes.ofText "192.0.2.1")).append
    "x-forwarded-proto" (Bytes.ofText "https")).append "connection"
    (Bytes.ofText "X-Forwarded-Proto")
  body := .sized []
  version := .v11

theorem forwarded_of_claimingRequest :
    create ⟨"http", none, "", none, none⟩ siteUpstream "a.test" = .ok siteForwarder ∧
    ∃ delivery, (siteForwarder.handle directResolver (fun _ => siteServer) (fun _ => 0) chatKey
        ⟨.v4 ⟨10, 0, 0, 7⟩, 51234⟩ 80 claimingRequest).delivery = some delivery ∧
      delivery.headers.values "x-forwarded-for" =
        [Bytes.ofText "192.0.2.1", Bytes.ofText "10.0.0.7"] ∧
      delivery.headers.values "x-forwarded-port" = [Bytes.ofText "80"] ∧
      delivery.headers.values "x-forwarded-proto" = [Bytes.ofText "http"] := by
  have hcreate : create ⟨"http", none, "", none, none⟩ siteUpstream "a.test" =
      .ok siteForwarder := by rfl
  obtain ⟨-, -, hreceived, -⟩ := forwarded_of_request hcreate (.inl rfl) directResolver
    (fun _ => siteServer) (fun _ => 0) chatKey ⟨.v4 ⟨10, 0, 0, 7⟩, 51234⟩ 80 claimingRequest
  obtain ⟨delivery, hdelivery⟩ := Option.isSome_iff_exists.1 (show (siteForwarder.handle
    directResolver (fun _ => siteServer) (fun _ => 0) chatKey ⟨.v4 ⟨10, 0, 0, 7⟩, 51234⟩ 80
    claimingRequest).delivery.isSome = true by decide +kernel)
  obtain ⟨hpeer, hport, hproto⟩ := hreceived delivery hdelivery
  refine ⟨hcreate, delivery, hdelivery, hpeer.trans ?_, hport.trans ?_, hproto.trans ?_⟩
  · decide +kernel
  · decide +kernel
  · decide +kernel

end HttpForwarder

end Gatehouse
