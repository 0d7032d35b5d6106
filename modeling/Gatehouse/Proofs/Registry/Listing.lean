import Gatehouse.Proofs.Json.Writing
import Gatehouse.Proofs.Registry.Calls
import Gatehouse.Proofs.Url.Texts

/-!
# The registry as it is listed

The registry is written as a list of its endpoints, each with its proxies. The list is in ascending
order, whatever the order in which the entries have been registered; it is the same for two routers
that the same has been registered with; and since what is written determines what was written, the
text of the list tells the endpoints, and of each of them the ports, the places that are listened on
and the targets, since the text of a URL that has been read tells the URL.

## Main definitions

* `Proxy.Listing`, `Endpoint.Listing`: what is written of a proxy and of an endpoint.
* `Proxy.entry`, `Endpoint.entries`: what that is written from.
* `Router.listing`: what is written of the registry.
* `Router.Reached`: the routers that there are, with all that has been registered.
* `Registered.call`: the call that registers an entry.

## Main results

* `Router.compact_eq_iff`: the text determines the listing.
* `Router.IsOrderly.sortByHost_eq_of_perm`: the order in which endpoints are kept does not matter.
* `Router.Reached.isOrderly`, `Router.Reached.has_iff`: the entries of a router.
* `Router.listing_eq_iff`: the listing determines what is listed under each host.
* `Router.Reached.entries_eq_iff`: what is listed under a host determines the proxies and targets.
* `Router.text_of_registered`: the order of the listing, and what its text depends on.
-/

namespace Gatehouse

/-! ### What is written -/

/-- What is written of a proxy. -/
structure Proxy.Listing where
  port : Nat
  /-- Where it listens. -/
  listen : String
  target : String
  deriving DecidableEq, Repr

/-- What is written of an endpoint. -/
structure Endpoint.Listing where
  host : String
  proxies : List Proxy.Listing
  deriving DecidableEq, Repr

namespace Proxy

def listing (p : Proxy) : Listing := ⟨p.port, p.listenText, p.target.text⟩

/-- The member that is written. -/
def Listing.member (l : Listing) : String × Json.Tree :=
  (toString l.port, .object [("listen", .string l.listen), ("target", .string l.target)])

theorem Listing.member_injective : Function.Injective Listing.member := by
  rintro ⟨port, listen, target⟩ ⟨port', listen', target'⟩ h
  simp only [member, Prod.mk.injEq, Json.Tree.object.injEq, List.cons.injEq, Json.Tree.string.injEq,
    true_and, and_true] at h
  obtain ⟨hport, rfl, rfl⟩ := h
  rw [Numeral.toString_injective hport]

end Proxy

namespace Endpoint

def listing (e : Endpoint) : Listing := ⟨e.host, e.proxies.map Proxy.listing⟩

/-- The object that is written. -/
def Listing.tree (l : Listing) : Json.Tree :=
  .object [("host", .string l.host), ("proxies", .object (l.proxies.map Proxy.Listing.member))]

theorem Listing.tree_injective : Function.Injective Listing.tree := by
  rintro ⟨host, proxies⟩ ⟨host', proxies'⟩ h
  simp only [tree, Json.Tree.object.injEq, List.cons.injEq, Prod.mk.injEq, Json.Tree.string.injEq,
    true_and, and_true] at h
  obtain ⟨rfl, hproxies⟩ := h
  rw [Proxy.Listing.member_injective.list_map hproxies]

theorem tree_listing (e : Endpoint) : e.listing.tree = e.tree := by
  rw [Listing.tree, listing, List.map_map]
  rfl

end Endpoint

namespace Router

/-- What is written of the registry. -/
def listing (r : Router) : List Endpoint.Listing := r.endpoints.map Endpoint.listing

theorem tree_eq_listing (r : Router) : r.tree = .array (r.listing.map Endpoint.Listing.tree) := by
  simp only [tree, listing, List.map_map, Function.comp_def, Endpoint.tree_listing]

variable {r r' : Router}

/-- The text determines the listing. -/
theorem compact_eq_iff : r.tree.compact = r'.tree.compact ↔ r.listing = r'.listing := by
  rw [Json.Tree.compact_injective.eq_iff, tree_eq_listing, tree_eq_listing, Json.Tree.array.injEq]
  exact Endpoint.Listing.tree_injective.list_map.eq_iff

/-- Endpoints of different hosts are sorted in ascending order. -/
theorem ascending_sortByHost {es : List Endpoint} (h : (es.map (·.host)).Nodup) :
    ((sortByHost es).map (·.host)).Pairwise (· < ·) := by
  have hsorted : (sortByHost es).Pairwise fun e e' => decide (e.host ≤ e'.host) := by
    refine List.pairwise_mergeSort (fun _ _ _ hab hbc => ?_) (fun e e' => ?_) es
    · exact decide_eq_true (Std.le_trans (of_decide_eq_true hab) (of_decide_eq_true hbc))
    · simpa using Std.le_total (a := e.host) (b := e'.host)
  have hnodup := List.pairwise_map.1 (((sortByHost_perm es).map (·.host)).nodup_iff.2 h)
  exact List.pairwise_map.2 ((hsorted.and hnodup).imp fun ⟨hle, hne⟩ =>
    Std.lt_of_le_of_ne (of_decide_eq_true hle) hne)

/-- What is listed in ascending order is determined by its members. -/
theorem eq_of_ascending {α : Type} (host : α → String) {xs ys : List α}
    (hxs : (xs.map host).Pairwise (· < ·)) (hys : (ys.map host).Pairwise (· < ·))
    (h : ∀ x, x ∈ xs ↔ x ∈ ys) : xs = ys := by
  have hxs := List.pairwise_map.1 hxs
  have hys := List.pairwise_map.1 hys
  have hnodup {zs : List α} (hzs : zs.Pairwise fun x y => host x < host y) : zs.Nodup :=
    hzs.imp fun hlt heq => Std.ne_of_lt hlt (congrArg host heq)
  have hperm := (List.perm_ext_iff_of_nodup (hnodup hxs) (hnodup hys)).2 h
  exact hperm.eq_of_pairwise
    (fun _ _ _ _ hab hba => absurd (Std.lt_trans hab hba) Std.lt_irrefl) hxs hys

theorem IsOrderly.ascending_hosts (hr : r.IsOrderly) :
    (r.endpoints.map (·.host)).Pairwise (· < ·) :=
  ascending_sortByHost (Dictionary.nodup_map_values fun _ _ => hr.host_eq)

/-- The endpoints are listed in the same way in whatever order they are kept. -/
theorem IsOrderly.sortByHost_eq_of_perm (hr : r.IsOrderly) {es : List Endpoint}
    (h : es.Perm r.byHost.values) : sortByHost es = r.endpoints := by
  have hhosts : (r.byHost.values.map (·.host)).Nodup :=
    Dictionary.nodup_map_values fun _ _ => hr.host_eq
  refine eq_of_ascending _ (ascending_sortByHost ((h.map _).nodup_iff.2 hhosts)) hr.ascending_hosts
    fun e => ?_
  rw [(sortByHost_perm es).mem_iff, h.mem_iff, ← (sortByHost_perm _).mem_iff, endpoints]

theorem IsOrderly.ascending_listing (hr : r.IsOrderly) :
    (r.listing.map (·.host)).Pairwise (· < ·) := by
  rw [listing, List.map_map]
  exact hr.ascending_hosts

/-- What is listed under a host. -/
theorem IsOrderly.listed_iff (hr : r.IsOrderly) {host : String} {l : Endpoint.Listing} :
    (r.endpoint? host).map Endpoint.listing = some l ↔ l ∈ r.listing ∧ l.host = host := by
  simp only [Option.map_eq_some_iff, listing, List.mem_map, mem_endpoints_iff]
  constructor
  · rintro ⟨e, he, rfl⟩
    exact ⟨⟨e, ⟨host, he⟩, rfl⟩, hr.host_eq he⟩
  · rintro ⟨⟨e, ⟨other, he⟩, rfl⟩, rfl⟩
    obtain rfl := hr.host_eq he
    exact ⟨e, he, rfl⟩

/-- The listing determines what is listed under each host. -/
theorem listing_eq_iff (hr : r.IsOrderly) (hr' : r'.IsOrderly) :
    r.listing = r'.listing ↔ ∀ host,
      (r.endpoint? host).map Endpoint.listing = (r'.endpoint? host).map Endpoint.listing := by
  refine ⟨fun h host => Option.ext fun l => ?_, fun h => ?_⟩
  · rw [hr.listed_iff, hr'.listed_iff, h]
  · refine eq_of_ascending _ hr.ascending_listing
      hr'.ascending_listing fun l => ?_
    simpa [hr.listed_iff, hr'.listed_iff] using congrArg (· = some l) (h l.host)

end Router

/-! ### The entries of a router -/

/-- What an endpoint has apart from its certificates. -/
def Endpoint.contents (e : Endpoint) : String × OrderedMap Nat Proxy := (e.host, e.byPort)

theorem Endpoint.listing_eq_of_contents {e e' : Endpoint} (h : e.contents = e'.contents) :
    e.listing = e'.listing := by
  simp only [contents, Prod.mk.injEq] at h
  simp only [listing, proxies, h]

namespace Router

variable {r r' : Router}

/-- Two routers have the same endpoints, apart from their certificates. -/
def Agrees (r r' : Router) : Prop :=
  ∀ host, (r.endpoint? host).map Endpoint.contents = (r'.endpoint? host).map Endpoint.contents

theorem Agrees.symm (h : r.Agrees r') : r'.Agrees r := fun host => (h host).symm

/-- An endpoint of a router has its counterpart in the other. -/
theorem Agrees.exists_endpoint (h : r.Agrees r') {host : String} {e : Endpoint}
    (he : r.endpoint? host = some e) :
    ∃ e', r'.endpoint? host = some e' ∧ e'.host = e.host ∧
      ∀ port, e'.proxy? port = e.proxy? port := by
  have hcontents := h host
  rw [he, Option.map_some, eq_comm, Option.map_eq_some_iff] at hcontents
  obtain ⟨e', he', heq⟩ := hcontents
  obtain ⟨hhost, hports⟩ := Prod.mk.inj heq
  exact ⟨e', he', hhost, fun port => by rw [Endpoint.proxy?, hports, Endpoint.proxy?]⟩

theorem Agrees.isOrderly (h : r.Agrees r') (hr : r.IsOrderly) : r'.IsOrderly := by
  constructor
  · intro host e' he'
    obtain ⟨e, he, hhost, -⟩ := h.symm.exists_endpoint he'
    exact hhost.symm.trans (hr.host_eq he)
  · intro host e' port p he' hp
    obtain ⟨e, he, -, hproxy⟩ := h.symm.exists_endpoint he'
    exact hr.port_eq he ((hproxy port).trans hp)
  · intro host e' port p he' hp
    obtain ⟨e, he, -, hproxy⟩ := h.symm.exists_endpoint he'
    exact hr.isSupported he ((hproxy port).trans hp)

theorem Agrees.has (h : r.Agrees r') {x : Registered} (hx : r.Has x) : r'.Has x := by
  cases x with
  | endpoint host =>
    obtain ⟨e, he⟩ := hx
    obtain ⟨e', he', -, -⟩ := h.exists_endpoint he
    exact ⟨e', he'⟩
  | proxy host p =>
    obtain ⟨e, he, hp⟩ := hx
    obtain ⟨e', he', -, hproxy⟩ := h.exists_endpoint he
    exact ⟨e', he', (hproxy p.port).trans hp⟩

theorem Agrees.has_iff (h : r.Agrees r') (x : Registered) : r.Has x ↔ r'.Has x :=
  ⟨h.has, h.symm.has⟩

/-- Orderly routers with the same entries have the same endpoints. -/
theorem agrees_of_has_iff (hr : r.IsOrderly) (hr' : r'.IsOrderly) (h : ∀ x, r.Has x ↔ r'.Has x) :
    r.Agrees r' := by
  intro host
  cases he : r.endpoint? host with
  | none =>
    have hnone : ¬ r'.Has (.endpoint host) := fun hhas => by
      obtain ⟨e, he'⟩ := (h _).2 hhas
      rw [he] at he'
      cases he'
    rw [Option.eq_none_iff_forall_ne_some.2 fun e' he' => hnone ⟨e', he'⟩]
  | some e =>
    obtain ⟨e', he'⟩ := (h (.endpoint host)).1 ⟨e, he⟩
    have hports : e.byPort = e'.byPort := by
      refine OrderedMap.eq_of_get?_eq fun port => Option.ext fun p => ⟨fun hp => ?_, fun hp => ?_⟩
      · obtain rfl := hr.port_eq he hp
        obtain ⟨f, hf, hp'⟩ := (h (.proxy host p)).1 ⟨e, he, hp⟩
        cases he'.symm.trans hf
        exact hp'
      · obtain rfl := hr'.port_eq he' hp
        obtain ⟨f, hf, hp'⟩ := (h (.proxy host p)).2 ⟨e', he', hp⟩
        cases he.symm.trans hf
        exact hp'
    rw [he', Option.map_some, Option.map_some, Endpoint.contents, Endpoint.contents, hports,
      hr.host_eq he, hr'.host_eq he']

/-- A request for a certificate leaves the entries as they are. -/
theorem agrees_of_certificate {issuer : Issuer} {host hostname : String}
    {answer : Except RouterError Certificate}
    (h : r.certificate issuer host hostname = some (answer, r')) : r.Agrees r' := by
  obtain ⟨e, he, heq⟩ := Option.map_eq_some_iff.1 h
  obtain ⟨-, rfl⟩ := Prod.mk.inj heq
  intro other
  by_cases hother : other = host
  · subst hother
    have hget : r.byHost.get? other = some e := he
    simp [endpoint?, store, Dictionary.get?_insert, Endpoint.contents, hget]
  · simp [endpoint?, store, Dictionary.get?_insert, hother]

end Router

/-- The listen URL and the target tell a proxy that is supported. -/
theorem Proxy.IsSupported.eq_of_listen {p q : Proxy} (hp : p.IsSupported) (hq : q.IsSupported)
    (hlisten : p.listen = q.listen) (htarget : p.target = q.target) : p = q := by
  obtain ⟨listen, target, scheme, port⟩ := p
  obtain ⟨listen', target', scheme', port'⟩ := q
  obtain rfl : listen = listen' := hlisten
  obtain rfl : target = target' := htarget
  obtain rfl : scheme = scheme' := Except.ok.inj (hp.scheme_eq.symm.trans hq.scheme_eq)
  obtain rfl : port = port' := Option.some.inj (hp.port_eq.symm.trans hq.port_eq)
  rfl

/-- The call that registers an entry: for the host of an endpoint, or for the host, the listen URL
and the target of a proxy. -/
def Registered.call : Registered → RegistryCall
  | .endpoint host => .createEndpoint host
  | .proxy host p => .createProxy host p.listen p.target

namespace Router

/-- The routers that there are, by calls that succeed or fail and by requests for certificates, and
what has been registered with each, in order. -/
inductive Reached (settings : ProxySettings) : List Registered → Router → Prop
  | create : Reached settings [] (create settings)
  | call {done : List Registered} {r : Router} (h : Reached settings done r) (c : RegistryCall) :
      Reached settings (done ++ registered (r.call c).1) (r.call c).2
  | certificate {done : List Registered} {r r' : Router} (h : Reached settings done r)
      {issuer : Issuer} {host hostname : String} {answer : Except RouterError Certificate}
      (hasked : r.certificate issuer host hostname = some (answer, r')) : Reached settings done r'

variable {settings settings' : ProxySettings} {done done' : List Registered} {r r' : Router}

/-- Further calls reach further routers. -/
theorem Reached.callAll (h : Reached settings done r) (calls : List RegistryCall) :
    Reached settings (done ++ (r.callAll calls).1) (r.callAll calls).2 := by
  induction calls generalizing done r with
  | nil => simpa [Router.callAll] using h
  | cons c calls ih => simpa [Router.callAll] using ih (h.call c)

theorem Reached.isOrderly (h : Reached settings done r) : r.IsOrderly := by
  induction h with
  | create => exact isOrderly_create settings
  | call _ c ih => exact (effect_call _ c).isOrderly ih
  | certificate _ hasked ih => exact (agrees_of_certificate hasked).isOrderly ih

/-- The entries of a router are those that have been registered. -/
theorem Reached.has_iff (h : Reached settings done r) (x : Registered) : r.Has x ↔ x ∈ done := by
  induction h with
  | create => simp [not_has_create]
  | call _ c ih => rw [(effect_call _ c).has_iff, ih, List.mem_append, mem_registered_iff]
  | certificate _ hasked ih => rw [← (agrees_of_certificate hasked).has_iff, ih]

/-- The call that has registered an entry tells the entry. -/
theorem Reached.eq_of_call (h : Reached settings done r) (h' : Reached settings' done' r')
    {x y : Registered} (hx : x ∈ done) (hy : y ∈ done') (hcall : y.call = x.call) : y = x := by
  have hsupported {settings : ProxySettings} {done : List Registered} {r : Router}
      (h : Reached settings done r) {host : String} {p : Proxy} (hp : .proxy host p ∈ done) :
      p.IsSupported := by
    obtain ⟨e, he, hproxy⟩ := (h.has_iff _).2 hp
    exact h.isOrderly.isSupported he hproxy
  cases x with
  | endpoint host =>
    cases y with
    | endpoint host' => rw [RegistryCall.createEndpoint.inj hcall]
    | proxy => cases hcall
  | proxy host p =>
    cases y with
    | endpoint => cases hcall
    | proxy host' q =>
      obtain ⟨rfl, hlisten, htarget⟩ := RegistryCall.createProxy.inj hcall
      rw [(hsupported h' hy).eq_of_listen (hsupported h hx) hlisten htarget]

/-- Two routers that the same has been registered with agree. -/
theorem Reached.agrees (h : Reached settings done r) (h' : Reached settings' done' r')
    (hcalls : ∀ c, c ∈ done.map Registered.call ↔ c ∈ done'.map Registered.call) :
    r.Agrees r' := by
  refine agrees_of_has_iff h.isOrderly h'.isOrderly fun x => ?_
  rw [h.has_iff, h'.has_iff]
  refine ⟨fun hx => ?_, fun hx => ?_⟩
  · obtain ⟨y, hy, hcall⟩ := List.mem_map.1 ((hcalls _).1 (List.mem_map_of_mem hx))
    exact h.eq_of_call h' hx hy hcall ▸ hy
  · obtain ⟨y, hy, hcall⟩ := List.mem_map.1 ((hcalls _).2 (List.mem_map_of_mem hx))
    exact h'.eq_of_call h hx hy hcall ▸ hy

/-- Two routers that the same has been registered with have the same listing. -/
theorem Agrees.listing_eq (h : r.Agrees r') (hr : r.IsOrderly) : r.listing = r'.listing := by
  refine (listing_eq_iff hr (h.isOrderly hr)).2 fun host => ?_
  have hhost := h host
  cases he : r.endpoint? host with
  | none =>
    rw [he, Option.map_none, eq_comm, Option.map_eq_none_iff] at hhost
    rw [hhost]
  | some e =>
    rw [he, Option.map_some, eq_comm, Option.map_eq_some_iff] at hhost
    obtain ⟨e', he', hcontents⟩ := hhost
    rw [he', Option.map_some, Option.map_some, Endpoint.listing_eq_of_contents hcontents]

end Router

/-! ### Targets that have been read -/

/-- The port, the place that is listened on and the target. -/
def Proxy.entry (p : Proxy) : Nat × String × Url := (p.port, p.listenText, p.target)

/-- The host with the entries of the proxies. -/
def Endpoint.entries (e : Endpoint) : String × List (Nat × String × Url) :=
  (e.host, e.proxies.map Proxy.entry)

theorem Endpoint.listing_eq_of_entries {e e' : Endpoint} (h : e.entries = e'.entries) :
    e.listing = e'.listing := by
  have hlisting (e : Endpoint) : e.listing =
      ⟨e.entries.1, e.entries.2.map fun x => ⟨x.1, x.2.1, x.2.2.text⟩⟩ := by
    rw [listing, entries, List.map_map]
    rfl
  rw [hlisting, hlisting, h]

/-- Targets that have been read are told by their texts. -/
theorem Proxy.map_entry_eq {ps qs : List Proxy}
    (hps : ∀ p ∈ ps, ∃ s, Url.parse s = .ok p.target)
    (hqs : ∀ q ∈ qs, ∃ s, Url.parse s = .ok q.target)
    (h : ps.map listing = qs.map listing) : ps.map entry = qs.map entry := by
  induction ps generalizing qs with
  | nil =>
    obtain rfl := List.map_eq_nil_iff.1 h.symm
    rfl
  | cons p ps ih =>
    cases qs with
    | nil => cases h
    | cons q qs =>
      obtain ⟨⟨s, hs⟩, hps⟩ := List.forall_mem_cons.1 hps
      obtain ⟨⟨t, ht⟩, hqs⟩ := List.forall_mem_cons.1 hqs
      obtain ⟨hhead, htail⟩ := List.cons.inj h
      obtain ⟨hport, hlisten, htarget⟩ := Listing.mk.inj hhead
      rw [List.map_cons, List.map_cons, ih hps hqs htail, entry, hport, hlisten,
        Url.eq_of_text_eq hs ht htarget, entry]

namespace Router

variable {settings settings' : ProxySettings} {done done' : List Registered} {r r' : Router}

/-- The proxies of an endpoint have been registered. -/
theorem Reached.mem_of_mem_proxies (h : Reached settings done r) {host : String} {e : Endpoint}
    (he : r.endpoint? host = some e) {p : Proxy} (hp : p ∈ e.proxies) :
    .proxy host p ∈ done := by
  obtain ⟨port, hport⟩ := OrderedMap.mem_values_iff.1 hp
  obtain rfl := h.isOrderly.port_eq he hport
  exact (h.has_iff _).1 ⟨e, he, hport⟩

/-- What is listed under a host tells the proxies there and their targets, if these have been
read. -/
theorem Reached.entries_eq_iff (h : Reached settings done r) (h' : Reached settings' done' r')
    (hread : ∀ host p, .proxy host p ∈ done ++ done' → ∃ s, Url.parse s = .ok p.target)
    (host : String) :
    (r.endpoint? host).map Endpoint.listing = (r'.endpoint? host).map Endpoint.listing ↔
      (r.endpoint? host).map Endpoint.entries = (r'.endpoint? host).map Endpoint.entries := by
  cases he : r.endpoint? host with
  | none => cases r'.endpoint? host <;> simp
  | some e =>
    cases he' : r'.endpoint? host with
    | none => simp
    | some e' =>
      simp only [Option.map_some, Option.some.injEq]
      refine ⟨fun hlisting => ?_, Endpoint.listing_eq_of_entries⟩
      obtain ⟨hhost, hproxies⟩ := Endpoint.Listing.mk.inj hlisting
      rw [Endpoint.entries, Endpoint.entries, hhost, Proxy.map_entry_eq (fun p hp => ?_)
        (fun p hp => ?_) hproxies]
      · exact hread host p (List.mem_append_left _ (h.mem_of_mem_proxies he hp))
      · exact hread host p (List.mem_append_right _ (h'.mem_of_mem_proxies he' hp))

/-- **The text of the registry.** It lists the endpoints in ascending order of their hosts, and the
proxies of each in ascending order of their ports. Two routers that the same hosts, and the same
listen URLs and targets on the same hosts, have been registered with, in whatever order and with
whatever settings, have the same text. And two routers with the same text have the same hosts, and
under each host the same ports, with the same places that are listened on and the same texts of
targets, which are the same targets if these have been read from texts. -/
theorem text_of_registered (h : Reached settings done r) (h' : Reached settings' done' r') :
    r.tree = .array (r.listing.map Endpoint.Listing.tree) ∧
    (r.listing.map (·.host)).Pairwise (· < ·) ∧
    (∀ l ∈ r.listing, (l.proxies.map (·.port)).Pairwise (· < ·)) ∧
    ((∀ c, c ∈ done.map Registered.call ↔ c ∈ done'.map Registered.call) →
      r.tree.compact = r'.tree.compact) ∧
    (r.tree.compact = r'.tree.compact ↔ ∀ host,
      (r.endpoint? host).map Endpoint.listing = (r'.endpoint? host).map Endpoint.listing) ∧
    ((∀ host p, .proxy host p ∈ done ++ done' → ∃ s, Url.parse s = .ok p.target) →
      (r.tree.compact = r'.tree.compact ↔ ∀ host,
        (r.endpoint? host).map Endpoint.entries = (r'.endpoint? host).map Endpoint.entries)) := by
  have htext : r.tree.compact = r'.tree.compact ↔ ∀ host,
      (r.endpoint? host).map Endpoint.listing = (r'.endpoint? host).map Endpoint.listing := by
    rw [compact_eq_iff, listing_eq_iff h.isOrderly h'.isOrderly]
  refine ⟨r.tree_eq_listing, ?_, fun l hl => ?_, fun hcalls => ?_, htext, fun hread => ?_⟩
  · exact h.isOrderly.ascending_listing
  · obtain ⟨e, he, rfl⟩ := List.mem_map.1 hl
    obtain ⟨host, hhost⟩ := mem_endpoints_iff.1 he
    rw [Endpoint.listing, List.map_map]
    exact OrderedMap.ascending_map_values fun _ _ => h.isOrderly.port_eq hhost
  · exact compact_eq_iff.2 ((h.agrees h' hcalls).listing_eq h.isOrderly)
  · rw [htext]
    exact forall_congr' (h.entries_eq_iff h' hread)

/-- Two hosts, one of which needs escapes, and two proxies of one of them. -/
def twoHosts : List RegistryCall :=
  [.createEndpoint "b.test",
    .createProxy "b.test" (.ofHost "http" (.name "web.test") 8080) (.ofHost "tcp" (.name "up") 80),
    .createEndpoint "a\"\n",
    .createProxy "b.test" (.ofHost "tcp" (.name "web.test") 443) (.ofHost "tcp" (.name "up") 81)]

/-- The same in another order. -/
def twoHostsLater : List RegistryCall :=
  [.createEndpoint "a\"\n", .createEndpoint "b.test",
    .createProxy "b.test" (.ofHost "tcp" (.name "web.test") 443) (.ofHost "tcp" (.name "up") 81),
    .createProxy "b.test" (.ofHost "http" (.name "web.test") 8080) (.ofHost "tcp" (.name "up") 80)]

theorem text_of_twoHosts :
    ((create .standard).callAll twoHosts).2.tree.compact =
        ((create .standard).callAll twoHostsLater).2.tree.compact ∧
      ∀ host, (((create .standard).callAll twoHosts).2.endpoint? host).map Endpoint.entries =
        (((create .standard).callAll twoHostsLater).2.endpoint? host).map Endpoint.entries := by
  have h : Reached .standard ((create .standard).callAll twoHosts).1
      ((create .standard).callAll twoHosts).2 := Reached.create.callAll twoHosts
  have h' : Reached .standard ((create .standard).callAll twoHostsLater).1
      ((create .standard).callAll twoHostsLater).2 := Reached.create.callAll twoHostsLater
  have hperm : (((create .standard).callAll twoHosts).1.map Registered.call).Perm
      (((create .standard).callAll twoHostsLater).1.map Registered.call) := by decide +kernel
  have htext := (text_of_registered h h').2.2.2.1 fun c => hperm.mem_iff
  have hcalls : ∀ c ∈ (((create .standard).callAll twoHosts).1 ++
      ((create .standard).callAll twoHostsLater).1).map Registered.call, c ∈ twoHosts := by
    decide +kernel
  refine ⟨htext, ((text_of_registered h h').2.2.2.2.2 fun host p hp => ?_).1 htext⟩
  have hcall : RegistryCall.createProxy host p.listen p.target ∈ twoHosts :=
    hcalls _ (List.mem_map_of_mem hp)
  simp only [twoHosts, List.mem_cons, RegistryCall.createProxy.injEq, reduceCtorEq, false_or,
    List.not_mem_nil, or_false] at hcall
  rcases hcall with ⟨-, -, htarget⟩ | ⟨-, -, htarget⟩
  · exact ⟨"tcp://up:80", by rw [htarget]; decide +kernel⟩
  · exact ⟨"tcp://up:81", by rw [htarget]; decide +kernel⟩

end Router

end Gatehouse
