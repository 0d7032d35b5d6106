import Gatehouse.Http.Inbound
import Gatehouse.Proofs.Forwarding.Host
import Gatehouse.Proofs.Forwarding.Joining
import Gatehouse.Proofs.Http.Targets
import Gatehouse.Proofs.Url.Parts

/-!
# Which target a backend is asked for

The target that a backend is to be asked for is put together from a path and a query that can be
read. The text that this gives can itself be read, and is written again as it is, with two
exceptions: it may be too long, if the path of the target has come in front, and it may be a query
alone, if an absolute target in the rack has a query and no path. In these cases a plain request
asks for the root, and a request for WebSocket fails.

## Main definitions

* `Uri.IsWritable`: a text is not too long, and does not start with a question mark.
* `Director.IsAsked`: the texts that a backend may be asked for.
* `Director.IsSound`: what is put in front of paths and queries can be read.

## Main results

* `Director.isAsked_pathAndQuery`: what a backend is asked for.
* `Director.IsAsked.parse?_cases`: what is read of it.
* `HttpForwarder.target_of_request`: the target that a backend receives.
* `HttpForwarder.received_root`: a query that is lost.
-/

namespace Gatehouse

/-- A text is not too long for a target, and does not start with its query. -/
def Uri.IsWritable (text : String) : Prop :=
  text.toList.length ≤ maxLength ∧ text.toList.head? ≠ some '?'

instance (text : String) : Decidable (Uri.IsWritable text) := inferInstanceAs (Decidable (_ ∧ _))

open Uri (IsPath IsQuery IsRooted IsWritable written)

namespace Director

/-! ### What a backend may be asked for -/

/-- The texts that a backend may be asked for. -/
inductive IsAsked : String → Prop where
  | asterisk : IsAsked "*"
  | rooted {path : String} {query : Option String} (hpath : IsPath path) (hrooted : IsRooted path)
      (hquery : ∀ q ∈ query, IsQuery q) : IsAsked (written path query)
  | query (q : String) : IsAsked (written "" (some q))

/-- What is read of a text that a backend may be asked for: the target that is written so, unless
the text cannot be written. -/
theorem IsAsked.parse?_cases {text : String} (h : IsAsked text) :
    (IsWritable text ∧ ∃ uri, Uri.parse? text = some uri ∧ uri.text = text) ∨
      (¬ IsWritable text ∧ Uri.parse? text = none) := by
  cases h with
  | asterisk => exact .inl ⟨by decide, _, rfl, by decide⟩
  | @rooted path query hpath hrooted hquery =>
    have hhead : (written path query).toList.head? = some '/' := hrooted.written query
    by_cases hlength : (written path query).toList.length ≤ Uri.maxLength
    · exact .inl ⟨⟨hlength, hhead ▸ by decide⟩, _, Uri.parse?_written hpath hrooted hquery hlength,
        Uri.text_of_isRooted hrooted query⟩
    · exact .inr ⟨fun h => hlength h.1, Uri.parse?_of_long (Nat.lt_of_not_le hlength)⟩
  | query q =>
    refine .inr ⟨fun h => h.2 ?_, Uri.parse?_written_nil q⟩
    rw [Uri.toList_written_some]
    rfl

/-! ### Joining paths and queries -/

theorem isPath_joinPaths {a b : String} (ha : IsPath a) (hb : IsPath b) :
    IsPath (joinPaths a b) := by
  intro c hc
  rcases mem_joinPaths hc with hc | rfl | hc
  · exact ha c hc
  · decide
  · exact hb c hc

/-- A path behind a rooted one, or a path with a slash put in front, is rooted. -/
theorem isRooted_joinPaths {a : String} (ha : a = "" ∨ IsRooted a) (b : String) :
    IsRooted (joinPaths a b) := by
  unfold IsRooted joinPaths
  rcases ha with rfl | ha
  · have hlast : ("".toList.getLast? == some '/') = false := rfl
    rw [hlast]
    cases hb : b.toList.head? == some '/' with
    | true => simpa using hb
    | false => simp
  · obtain ⟨rest, hcs⟩ := List.head?_eq_some_iff.1 ha
    split
    all_goals simp [hcs]

/-- Of two queries, there may be left none, either, or both. -/
theorem joinQueries_cases (a b : Option String) :
    joinQueries a b = none ∨ joinQueries a b = a ∨ joinQueries a b = b ∨
      ∃ x ∈ a, ∃ y ∈ b, joinQueries a b = some (x ++ "&" ++ y) := by
  unfold joinQueries
  rw [List.filterMap_cons, List.filterMap_cons, List.filterMap_nil]
  cases ha : a.filter (· ≠ "") with
  | none =>
    cases hb : b.filter (· ≠ "") with
    | none => exact .inl rfl
    | some y => exact .inr (.inr (.inl (Option.filter_eq_some_iff.1 hb).1.symm))
  | some x =>
    have hx := (Option.filter_eq_some_iff.1 ha).1
    cases hb : b.filter (· ≠ "") with
    | none => exact .inr (.inl hx.symm)
    | some y => exact .inr (.inr (.inr ⟨x, hx, y, (Option.filter_eq_some_iff.1 hb).1, rfl⟩))

theorem isQuery_joinQueries {a b : Option String} (ha : ∀ q ∈ a, IsQuery q)
    (hb : ∀ q ∈ b, IsQuery q) : ∀ q ∈ joinQueries a b, IsQuery q := by
  rcases joinQueries_cases a b with hjoin | hjoin | hjoin | ⟨x, hx, y, hy, hjoin⟩
  all_goals rw [hjoin]
  · exact nofun
  · exact ha
  · exact hb
  · intro q hq c hc
    cases hq
    simp only [String.toList_append, List.mem_append] at hc
    rcases hc with (hc | hc) | hc
    · exact ha x hx c hc
    · rw [List.mem_singleton.1 hc]
      decide
    · exact hb y hy c hc

/-! ### The text for an inbound target -/

/-- What is put in front of paths and queries is empty or rooted, and can be read. -/
def IsSound : Director → Prop
  | .rack => True
  | .direct basePath baseQuery =>
    IsPath basePath ∧ (basePath = "" ∨ IsRooted basePath) ∧ ∀ q ∈ baseQuery, IsQuery q

end Director

namespace Uri

variable {uri : Uri}

/-- A target is absolute, and has a query and no path. -/
def LacksPath (uri : Uri) : Prop :=
  uri.scheme.isSome = true ∧ uri.pathText = "" ∧ uri.query.isSome = true

theorem not_lacksPath (h : uri.query = none) : ¬ uri.LacksPath := by
  rintro ⟨-, -, hquery⟩
  rw [h] at hquery
  cases hquery

end Uri

namespace Director

variable {uri : Uri}

/-- A workload of the rack is asked for the root if there is neither a path nor a query, and else
for what there is of them. -/
theorem pathAndQuery_rack (h : uri.Form) :
    pathAndQuery .rack uri = "/" ∧ uri.pathText = "" ∧ uri.query = none ∨
      pathAndQuery .rack uri = written uri.pathText uri.query ∧
        (uri.pathText = "*" ∧ uri.query = none ∨ IsPath uri.pathText ∧ IsRooted uri.pathText ∨
          uri.LacksPath) := by
  rw [pathAndQuery_rack_eq h.isProper]
  cases h with
  | asterisk => exact .inr ⟨if_neg (by decide), .inl ⟨rfl, rfl⟩⟩
  | origin hpath hrooted =>
    exact .inr ⟨if_neg fun hnone => hrooted.ne_empty hnone.1, .inr (.inl ⟨hpath, hrooted⟩)⟩
  | authority => exact .inl ⟨if_pos ⟨rfl, rfl⟩, rfl, rfl⟩
  | @absolute scheme authority path query hpath hrooted =>
    rcases hrooted with rfl | hrooted
    · cases query with
      | none => exact .inl ⟨if_pos ⟨rfl, rfl⟩, rfl, rfl⟩
      | some q => exact .inr ⟨if_neg (by simp), .inr (.inr ⟨rfl, rfl, rfl⟩)⟩
    · exact .inr ⟨if_neg fun hnone => hrooted.ne_empty hnone.1, .inr (.inl ⟨hpath, hrooted⟩)⟩

/-- What a backend is asked for. -/
theorem isAsked_pathAndQuery {d : Director} (hd : d.IsSound) (h : uri.Form) :
    IsAsked (d.pathAndQuery uri) := by
  cases d with
  | rack =>
    rcases pathAndQuery_rack h with ⟨hroot, -⟩ | ⟨htext, hcases⟩
    · have hslash : IsAsked (written "/" none) := .rooted (by decide) (by decide) nofun
      exact hroot ▸ hslash
    · rw [htext]
      rcases hcases with ⟨hpath, hquery⟩ | ⟨hpath, hrooted⟩ | ⟨-, hpath, hquery⟩
      · rw [hpath, hquery]
        exact .asterisk
      · exact .rooted hpath hrooted h.isQuery
      · obtain ⟨q, hq⟩ := Option.isSome_iff_exists.1 hquery
        rw [hpath, hq]
        exact .query q
  | direct basePath baseQuery =>
    obtain ⟨hpath, hrooted, hquery⟩ := hd
    rw [pathAndQuery_direct]
    exact .rooted (isPath_joinPaths hpath h.isPath) (isRooted_joinPaths hrooted _)
      (isQuery_joinQueries hquery h.isQuery)

/-- What a direct backend is asked for can be written unless it is too long. -/
theorem isWritable_direct_iff {basePath : String} {baseQuery : Option String}
    (hd : (direct basePath baseQuery).IsSound) :
    IsWritable (pathAndQuery (.direct basePath baseQuery) uri) ↔
      (pathAndQuery (.direct basePath baseQuery) uri).toList.length ≤ Uri.maxLength := by
  refine ⟨And.left, fun hlength => ⟨hlength, ?_⟩⟩
  have hhead : IsRooted (pathAndQuery (.direct basePath baseQuery) uri) :=
    pathAndQuery_direct basePath baseQuery uri ▸ (isRooted_joinPaths hd.2.1 _).written _
  rw [hhead]
  decide

/-- What a workload of the rack is asked for can be written unless it is a query alone. -/
theorem isWritable_rack_iff (h : uri.Form)
    (hlength : (written uri.pathText uri.query).toList.length ≤ Uri.maxLength) :
    IsWritable (pathAndQuery .rack uri) ↔ ¬ uri.LacksPath := by
  rcases pathAndQuery_rack h with ⟨hroot, -, hquery⟩ | ⟨htext, hcases⟩
  · exact iff_of_true (hroot ▸ by decide) (Uri.not_lacksPath hquery)
  · rw [htext]
    rcases hcases with ⟨hpath, hquery⟩ | ⟨-, hrooted⟩ | hlacks
    · refine iff_of_true ?_ (Uri.not_lacksPath hquery)
      rw [hpath, hquery]
      decide
    · have hhead : IsRooted (written uri.pathText uri.query) := hrooted.written _
      exact iff_of_true ⟨hlength, hhead ▸ by decide⟩ fun hlacks => hrooted.ne_empty hlacks.2.1
    · refine iff_of_false (fun hwritable => hwritable.2 ?_) (not_not_intro hlacks)
      obtain ⟨q, hq⟩ := Option.isSome_iff_exists.1 hlacks.2.2
      rw [hlacks.2.1, hq, Uri.toList_written_some]
      rfl

end Director

/-! ### Targets that have been read -/

/-- What a URL does not encode in its path may stand in the path of a request target. -/
theorem isPathChar_of_inPath {c : Char} (h : Percent.inPath c = false) :
    Uri.isPathChar c = true := by
  simp only [Percent.inPath, Percent.inFragment, Percent.inControls, Bool.or_eq_false_iff,
    decide_eq_false_iff_not, Nat.not_lt, Nat.not_le] at h
  obtain ⟨⟨⟨⟨⟨⟨hlow, hhigh⟩, hmarks⟩, hnumber⟩, hquestion⟩, -⟩, -⟩ := h
  have hspace : c.toNat ≠ 0x20 := fun hc => by
    rw [show c = ' ' from Char.toNat_inj.1 hc] at hmarks
    cases hmarks
  simp only [Uri.isPathChar, Bool.and_eq_true, decide_eq_true_eq]
  refine ⟨⟨by omega, by omega⟩, ?_⟩
  simp at hmarks hnumber hquestion ⊢
  tauto

/-- What a URL does not encode in its query may stand in the query of a request target. -/
theorem isQueryChar_of_inQuery {c : Char} (h : Percent.inQuery c = false) :
    Uri.isQueryChar c = true := by
  simp only [Percent.inQuery, Percent.inControls, Bool.or_eq_false_iff, decide_eq_false_iff_not,
    Nat.not_lt, Nat.not_le] at h
  obtain ⟨⟨hlow, hhigh⟩, hmarks⟩ := h
  have hspace : c.toNat ≠ 0x20 := fun hc => by
    rw [show c = ' ' from Char.toNat_inj.1 hc] at hmarks
    cases hmarks
  simp only [Uri.isQueryChar, Bool.and_eq_true, decide_eq_true_eq]
  refine ⟨⟨by omega, by omega⟩, ?_⟩
  simp at hmarks ⊢
  tauto

/-- The path and the query of a target that has been read can be put in front of others. -/
theorem Url.HasEncodedParts.isSound {target : Url} (h : target.HasEncodedParts) :
    (Director.ofTarget target).IsSound := by
  unfold Director.ofTarget
  split
  next => trivial
  next =>
    exact ⟨fun c hc => isPathChar_of_inPath (h.path c hc), h.rooted,
      fun q hq c hc => isQueryChar_of_inQuery (h.query q hq c hc)⟩

/-- A request comes from a client. -/
def Request.IsInbound (r : Request) : Prop := ∃ s : SentRequest, s.accept = .ok r

namespace SentRequest

variable {s : SentRequest} {r : Request}

theorem readTarget_of_accept (h : s.accept = .ok r) : readTarget s.target = .ok r.uri := by
  unfold accept at h
  split at h
  next =>
    unfold acceptMultiplexed at h
    simp only [bind, Except.bind, pure, Except.pure] at h
    split at h
    next => cases h
    next =>
      split at h
      next => cases h
      next =>
        split at h
        next => cases h
        next uri huri =>
          split at h
          all_goals
            cases h
            exact huri
  next =>
    unfold acceptStreamed at h
    simp only [bind, Except.bind, pure, Except.pure] at h
    split at h
    next => cases h
    next =>
      split at h
      next => cases h
      next =>
        split at h
        next => cases h
        next =>
          split at h
          next => cases h
          next uri huri =>
            split at h
            next => cases h
            next =>
              cases h
              exact huri

end SentRequest

/-- The target of a request of a client has one of the forms, and is not too long. -/
theorem Request.IsInbound.form {r : Request} (h : r.IsInbound) :
    r.uri.Form ∧ (written r.uri.pathText r.uri.query).toList.length ≤ Uri.maxLength := by
  obtain ⟨s, hs⟩ := h
  have hread := SentRequest.readTarget_of_accept hs
  unfold SentRequest.readTarget at hread
  split_ifs at hread
  split at hread
  next => cases hread
  next uri huri =>
    cases hread
    exact Uri.form_of_parse? huri

/-- A backend receives the target that is sent. -/
theorem Request.target_of_deliver {request : Request} {delivery : Delivery}
    (h : request.deliver = some delivery) : delivery.target = request.uri.text := by
  obtain ⟨_, -, rfl⟩ := Option.map_eq_some_iff.1 h
  rfl

namespace HttpForwarder

variable {τ : Type} {f : HttpForwarder} {resolver : Resolver τ}
  {servers : BackendStream τ → BackendServer} {draws : Draws} {key : Bytes} {peer : SocketAddress}
  {port : Nat} {forwarded : Forwarded} {r : Request}

/-- The target that a plain request is sent with. -/
def plainTarget (asked : String) : String := if IsWritable asked then asked else "/"

/-- A plain request is sent with what is asked for, or with the root if that cannot be written. -/
theorem text_uri_outbound (hasked : Director.IsAsked (f.director.pathAndQuery r.uri)) :
    (f.outbound forwarded r).uri.text = plainTarget (f.director.pathAndQuery r.uri) := by
  unfold outbound plainTarget
  rcases hasked.parse?_cases with ⟨hwritable, uri, hparse, htext⟩ | ⟨hunwritable, hparse⟩
  · rw [hparse, if_pos hwritable]
    exact htext
  · rw [hparse, if_neg hunwritable]
    rfl

/-- An opening handshake is sent with what is asked for, if that can be written. -/
theorem opening_cases (hasked : Director.IsAsked (f.director.pathAndQuery r.uri)) :
    (IsWritable (f.director.pathAndQuery r.uri) ∧ ∃ request,
        f.opening forwarded key r = some request ∧
        request.uri.text = f.director.pathAndQuery r.uri) ∨
      (¬ IsWritable (f.director.pathAndQuery r.uri) ∧ f.opening forwarded key r = none) := by
  unfold opening
  rcases hasked.parse?_cases with ⟨hwritable, uri, hparse, htext⟩ | ⟨hunwritable, hparse⟩
  · rw [hparse]
    exact .inl ⟨hwritable, _, rfl, htext⟩
  · rw [hparse]
    exact .inr ⟨hunwritable, rfl⟩

/-- A backend receives a plain request with the target that it is sent with. -/
theorem target_of_plain (hasks : asksForWebSocket r.method r.headers = false)
    (hasked : Director.IsAsked (f.director.pathAndQuery r.uri)) {delivery : Delivery}
    (hdelivery : (f.handle resolver servers draws key peer port r).delivery = some delivery) :
    delivery.target = plainTarget (f.director.pathAndQuery r.uri) := by
  obtain ⟨request, hsent, hdeliver⟩ := exists_sent_of_delivery hdelivery
  rw [sent?_of_plain hasks, Option.some.injEq] at hsent
  rw [Request.target_of_deliver hdeliver, ← hsent, text_uri_outbound hasked]

/-- A backend that receives an opening handshake is asked for what it is to be asked for. -/
theorem target_of_webSocket (hasks : asksForWebSocket r.method r.headers = true)
    (hasked : Director.IsAsked (f.director.pathAndQuery r.uri)) {delivery : Delivery}
    (hdelivery : (f.handle resolver servers draws key peer port r).delivery = some delivery) :
    IsWritable (f.director.pathAndQuery r.uri) ∧
      delivery.target = f.director.pathAndQuery r.uri := by
  obtain ⟨request, hsent, hdeliver⟩ := exists_sent_of_delivery hdelivery
  rw [sent?, if_pos hasks] at hsent
  rcases opening_cases hasked with ⟨hwritable, request', hopening, htext⟩ | ⟨-, hopening⟩
  · cases hopening.symm.trans hsent
    exact ⟨hwritable, (Request.target_of_deliver hdeliver).trans htext⟩
  · cases hopening.symm.trans hsent

/-- Nothing is sent for a request for WebSocket whose target cannot be written. It fails, unless
opening the hop is waited for forever. -/
theorem handle_of_unwritable (resolver : Resolver τ) (servers : BackendStream τ → BackendServer)
    (draws : Draws) (key : Bytes) (peer : SocketAddress) (port : Nat)
    (hasks : asksForWebSocket r.method r.headers = true)
    (hasked : Director.IsAsked (f.director.pathAndQuery r.uri))
    (hunwritable : ¬ IsWritable (f.director.pathAndQuery r.uri)) :
    (f.handle resolver servers draws key peer port r).delivery = none ∧
      ((∃ e, (f.handle resolver servers draws key peer port r).outcome = .failed e) ∨
        (f.handle resolver servers draws key peer port r).outcome = .pending ∧
        (resolver.openHop servers f.target f.webSocketSecurity draws).result = .pending) := by
  have hunsent : f.sent? ⟨peer, port, f.listenScheme⟩ key r = none := by
    rw [sent?, if_pos hasks]
    rcases opening_cases hasked with ⟨hwritable, -⟩ | ⟨-, hopening⟩
    · exact absurd hwritable hunwritable
    · exact hopening
  have hsecurity : f.securityFor r = f.webSocketSecurity := by rw [securityFor, if_pos hasks]
  refine ⟨Option.eq_none_iff_forall_ne_some.2 fun delivery hdelivery => ?_, ?_⟩
  · exact hunwritable (target_of_webSocket hasks hasked hdelivery).1
  · by_cases hrefused : r.IsRefused
    · obtain ⟨text, hhandle⟩ := handle_of_isRefused f resolver servers draws key peer port hrefused
      exact .inl ⟨_, congrArg Handling.outcome hhandle⟩
    · rcases failure_or_exchanged f resolver servers draws key ⟨peer, port, f.listenScheme⟩ r with
        ⟨e, hfailure⟩ | ⟨_, _, _, _, hexchanged, -⟩ | hwaits
      · exact .inl ⟨e, outcome_of_failure hrefused hfailure⟩
      · cases hunsent.symm.trans hexchanged.sent
      · refine .inr ⟨outcome_of_waits hrefused hwaits, Resolver.openHop_eq_pending_iff.2 ?_⟩
        cases hwaits with
        | forRack hconnect => exact .inl hconnect
        | forSession hconnect hsecure => exact .inr ⟨_, hconnect, hsecurity ▸ hsecure⟩
        | forAnswer _ hsent _ => cases hunsent.symm.trans hsent

/-- The target that a backend receives, for every target URL with an authority or a rooted path,
and every request of a client.

What a backend is asked for can be written just if, for a direct target, it is not too long, and
for a target in the rack, the client does not name an absolute target with a query and no path. A
plain request is sent, and received, with what is asked for if that can be written, and with the
root otherwise. A request for WebSocket is sent, and received, with what is asked for if that can
be written; otherwise nothing is sent for it, and it fails, unless opening the hop is waited for
forever. So if both kinds of requests for one target reach the backend, they ask for the same. -/
theorem target_of_request {text : String} {listen target : Url} {host : String}
    (htarget : Url.parse text = .ok target) (hpath : target.IsHierarchical)
    (hcreate : create listen target host = .ok f) (resolver : Resolver τ)
    (servers : BackendStream τ → BackendServer) (draws : Draws) (key : Bytes)
    (peer : SocketAddress) (port : Nat) :
    let asked (r : Request) := f.director.pathAndQuery r.uri
    let handling := f.handle resolver servers draws key peer port
    (∀ r : Request, r.IsInbound → (IsWritable (asked r) ↔
      if target.isRackTarget then ¬ r.uri.LacksPath
      else (asked r).toList.length ≤ Uri.maxLength)) ∧
    (∀ r : Request, r.IsInbound → asksForWebSocket r.method r.headers = false →
      (∃ request, f.sent? ⟨peer, port, f.listenScheme⟩ key r = some request ∧
        request.uri.text = plainTarget (asked r)) ∧
      ∀ delivery, (handling r).delivery = some delivery →
        delivery.target = plainTarget (asked r) ∧
        (delivery.target = asked r ↔ IsWritable (asked r))) ∧
    (∀ r : Request, r.IsInbound → asksForWebSocket r.method r.headers = true →
      (IsWritable (asked r) → ∃ request,
        f.sent? ⟨peer, port, f.listenScheme⟩ key r = some request ∧
        request.uri.text = asked r) ∧
      (∀ delivery, (handling r).delivery = some delivery →
        IsWritable (asked r) ∧ delivery.target = asked r) ∧
      (¬ IsWritable (asked r) →
        (handling r).delivery = none ∧ ((∃ e, (handling r).outcome = .failed e) ∨
          (handling r).outcome = .pending ∧
          (resolver.openHop servers f.target f.webSocketSecurity draws).result = .pending))) ∧
    ∀ plain webSocket : Request, plain.IsInbound → webSocket.IsInbound →
      plain.uri = webSocket.uri → asksForWebSocket plain.method plain.headers = false →
      asksForWebSocket webSocket.method webSocket.headers = true →
      ∀ delivery delivery', (handling plain).delivery = some delivery →
        (handling webSocket).delivery = some delivery' → delivery.target = delivery'.target := by
  intro asked handling
  have hsound : (Director.ofTarget target).IsSound :=
    (Url.hasEncodedParts_of_parse htarget hpath).isSound
  have hdirector : f.director = .ofTarget target := by rw [eq_mk_of_create hcreate]
  have hasked (r : Request) (hr : r.IsInbound) : Director.IsAsked (asked r) :=
    Director.isAsked_pathAndQuery (hdirector ▸ hsound) hr.form.1
  refine ⟨fun r hr => ?_, fun r hr hasks => ⟨⟨_, sent?_of_plain hasks, ?_⟩, ?_⟩,
    fun r hr hasks => ⟨?_, ?_, ?_⟩, ?_⟩
  · simp only [asked, hdirector, Director.ofTarget]
    split
    next => exact Director.isWritable_rack_iff hr.form.1 hr.form.2
    next hrack =>
      rw [Director.ofTarget, if_neg hrack] at hsound
      exact Director.isWritable_direct_iff hsound
  · exact text_uri_outbound (hasked r hr)
  · intro delivery hdelivery
    have hplain : delivery.target = plainTarget (asked r) :=
      target_of_plain hasks (hasked r hr) hdelivery
    refine ⟨hplain, ?_⟩
    rw [hplain, plainTarget]
    split
    next hwritable => exact iff_of_true rfl hwritable
    next hunwritable =>
      -- The root can be written.
      exact iff_of_false (fun hroot => hunwritable (hroot ▸ by decide)) hunwritable
  · intro hwritable
    rw [sent?, if_pos hasks]
    rcases opening_cases (hasked r hr) with ⟨-, hopening⟩ | ⟨hunwritable, -⟩
    · exact hopening
    · exact absurd hwritable hunwritable
  · exact fun delivery hdelivery => target_of_webSocket hasks (hasked r hr) hdelivery
  · exact handle_of_unwritable resolver servers draws key peer port hasks (hasked r hr)
  · intro plain webSocket hplain hwebSocket huri hasks hasks' delivery delivery' hdelivery
      hdelivery'
    have htarget := target_of_plain hasks (hasked plain hplain) hdelivery
    obtain ⟨hwritable, htarget'⟩ :=
      target_of_webSocket hasks' (hasked webSocket hwebSocket) hdelivery'
    rw [htarget, htarget', huri]
    exact if_pos hwritable

/-- A resource of the rack. -/
def chatTarget : Url :=
  ⟨"tcp", some ⟨"", none, some (.name "rack"), none⟩, "/app/resource/chat:80", none, none⟩

/-- The settings for the resource. -/
def chatTargetForwarder : HttpForwarder := { rackForwarder with target := chatTarget }

/-- A request for WebSocket, as a client sends it. -/
def sentChatRequest : SentRequest where
  method := "GET"
  target := "/chat"
  version := .v11
  fields := [("Upgrade", Bytes.ofText "websocket"),
    ("Sec-WebSocket-Version", Bytes.ofText "13"),
    ("Sec-WebSocket-Key", Bytes.ofText "AAAAAAAAAAAAAAAAAAAAAA==")]
  content := .nothing

/-- A workload of the rack is asked for the path that a client asks for. -/
theorem target_of_chatRequest :
    Url.parse "tcp://rack/app/resource/chat:80" = .ok chatTarget ∧ chatTarget.IsHierarchical ∧
    create ⟨"http", none, "", none, none⟩ chatTarget "a.test" = .ok chatTargetForwarder ∧
    chatRequest.IsInbound ∧
    ∃ delivery, (chatTargetForwarder.handle rackResolver (fun _ => chatServer) (fun _ => 0)
        chatKey ⟨.v4 ⟨10, 0, 0, 7⟩, 51234⟩ 80 chatRequest).delivery = some delivery ∧
      delivery.target = "/chat" := by
  have htarget : Url.parse "tcp://rack/app/resource/chat:80" = .ok chatTarget := by
    decide +kernel
  have hpath : chatTarget.IsHierarchical := .inl rfl
  have hcreate : create ⟨"http", none, "", none, none⟩ chatTarget "a.test" =
      .ok chatTargetForwarder := by rfl
  have hinbound : chatRequest.IsInbound := ⟨sentChatRequest, by decide +kernel⟩
  have hasks : asksForWebSocket chatRequest.method chatRequest.headers = true := by decide +kernel
  obtain ⟨-, -, hwebSocket, -⟩ := target_of_request htarget hpath hcreate rackResolver
    (fun _ => chatServer) (fun _ => 0) chatKey ⟨.v4 ⟨10, 0, 0, 7⟩, 51234⟩ 80
  obtain ⟨-, hreceived, -⟩ := hwebSocket chatRequest hinbound hasks
  obtain ⟨delivery, hdelivery⟩ := Option.isSome_iff_exists.1 (show (chatTargetForwarder.handle
    rackResolver (fun _ => chatServer) (fun _ => 0) chatKey ⟨.v4 ⟨10, 0, 0, 7⟩, 51234⟩ 80
    chatRequest).delivery.isSome = true by decide +kernel)
  exact ⟨htarget, hpath, hcreate, hinbound, delivery, hdelivery, (hreceived delivery hdelivery).2⟩

/-- A request with an absolute target that has a query and no path. -/
def queryRequest : Request := ⟨"GET", ⟨some "http", "h", "", some "z"⟩, .empty, .sized [], .v11⟩

/-- A workload of the rack is asked for the root by a plain request for such a target, and the query
gets lost. -/
theorem received_root :
    Url.parse "tcp://rack/app/resource/chat:80" = .ok chatTarget ∧ chatTarget.IsHierarchical ∧
    create ⟨"http", none, "", none, none⟩ chatTarget "a.test" = .ok chatTargetForwarder ∧
    SentRequest.accept ⟨"GET", "http://h?z", .v11, [], .nothing⟩ = .ok queryRequest ∧
    chatTargetForwarder.director.pathAndQuery queryRequest.uri = "?z" ∧
    (chatTargetForwarder.handle rackResolver (fun _ => siteServer) (fun _ => 0) chatKey
      ⟨.v4 ⟨10, 0, 0, 7⟩, 51234⟩ 80 queryRequest).delivery.map Delivery.target = some "/" := by
  refine ⟨?_, .inl rfl, rfl, ?_⟩
  · decide +kernel
  · decide +kernel

end HttpForwarder

end Gatehouse
