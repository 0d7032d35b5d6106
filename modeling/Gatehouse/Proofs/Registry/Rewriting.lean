import Gatehouse.Proofs.Json.Reading
import Gatehouse.Proofs.Registry.Calls
import Gatehouse.Proofs.Url.Authorities

/-!
# Proxies that are written and read back

A proxy is written as a record of two URLs, and its listen URL is written anew, from the scheme,
the host and the port only. The record names a proxy that listens at the same place and forwards
to the same target, and it is written in the same way again. The port is always written but left
out by the reader if the scheme implies it, and user names, paths and queries of the listen URL get
lost; neither changes where the proxy listens.

That a target and a domain are the URL and the domain that their texts are read as is not always
so, and is assumed where it is needed.

## Main definitions

* `ProxyConfig.parse`: the proxy that a document names.
* `Proxy.IsCopy`: two proxies are the same in all that is written of them.

## Main results

* `ProxyConfig.parse_object`: a record of two URLs is read back.
* `Proxy.IsSupported.exists_host`: a proxy has a host to listen on.
* `Proxy.IsSupported.parse_listenText`: the listen URL of a proxy is read back.
* `Proxy.isCopy_of_create`: what is written of a proxy names a copy of it.
-/

namespace Gatehouse

/-! ### Records of two URLs -/

/-- A URL is read from the string of its text. -/
theorem Json.reads_url {s : String} {u : Url} (h : Url.parse s = .ok u) :
    Reads readUrl (Tree.string s).write u := by
  intro rest mark
  obtain ⟨mark', hread⟩ := reads_wantedString "a string representing an URL" s rest mark
  refine ⟨mark', ?_⟩
  rw [Tree.write, readUrl, hread]
  dsimp only
  rw [h]

namespace ProxyConfig

/-- The proxy that a document names. -/
def parse (json : String) : Except Json.Error ProxyConfig :=
  Json.document (Json.readRecord shape ⟨none, none⟩) json

/-- A record of two URLs is read back. -/
theorem parse_object {s t : String} {listen target : Url} (hlisten : Url.parse s = .ok listen)
    (htarget : Url.parse t = .ok target) :
    parse (Json.Tree.object [("listen", .string s), ("target", .string t)]).compact =
      .ok ⟨listen, target⟩ := by
  have hfills : Json.Fills shape.fields ⟨none, none⟩
      [("listen", .string s), ("target", .string t)] ⟨some listen, some target⟩ := by
    have hfirst := Json.Reads.map (Json.reads_url hlisten) fun u => Draft.mk (some u) none
    have hsecond :=
      Json.Reads.map (Json.reads_url htarget) fun u => Draft.mk (some listen) (some u)
    exact .cons rfl rfl hfirst (.cons rfl rfl hsecond (.nil _))
  exact Json.document_eq_ok_of_reads (Json.reads_record hfills rfl)

end ProxyConfig

/-! ### Listen URLs -/

namespace Proxy

variable {p : Proxy}

/-- A proxy has a host to listen on, as it has a port. -/
theorem IsSupported.exists_host (hp : p.IsSupported) {s : String}
    (hlisten : Url.parse s = .ok p.listen) :
    ∃ host, p.listen.host = some host ∧
      host.IsRead (SchemeClass.of p.listen.scheme).isSpecial ∧ p.port < 65536 :=
  Url.exists_host_of_port hlisten hp.port_eq

/-- The listen URL of a proxy is read back. -/
theorem IsSupported.parse_listenText (hp : p.IsSupported) {host : Host}
    (hhost : p.listen.host = some host)
    (hread : host.IsRead (SchemeClass.of p.listen.scheme).isSpecial)
    (hback : host.ReadsBack (SchemeClass.of p.listen.scheme).isSpecial) (hport : p.port < 65536) :
    Url.parse p.listenText = .ok (Url.ofHost p.listen.scheme host p.port) := by
  have hname := hp.mem_names
  have hscheme : ∀ rest, Url.cutScheme? (p.listen.scheme.toList ++ ':' :: rest) =
      some (p.listen.scheme, rest) := by
    simp only [ListenScheme.names, List.mem_cons, List.not_mem_nil, or_false] at hname
    rcases hname with heq | heq | heq | heq <;> rw [heq] <;> exact fun _ => rfl
  have hblank : p.listen.scheme.toList.any Url.isBlank = false := by
    have hall : ∀ name ∈ ListenScheme.names, name.toList.any Url.isBlank = false := by decide
    exact hall _ hname
  have hfile : SchemeClass.of p.listen.scheme ≠ .file := by
    have hall : ∀ name ∈ ListenScheme.names, SchemeClass.of name ≠ .file := by decide
    exact hall _ hname
  have hparse := Url.parse_host hscheme hblank hfile hread hback hport
  rw [listenText, bindAddress, Url.hostText, hhost]
  exact hparse

/-! ### Copies -/

/-- Two proxies are the same in all that is written of them: they listen at the same place, forward
to the same target, and have the same JSON text. -/
structure IsCopy (p q : Proxy) : Prop where
  listen_scheme_eq : q.listen.scheme = p.listen.scheme
  scheme_eq : q.scheme = p.scheme
  port_eq : q.port = p.port
  bindAddress_eq : q.bindAddress = p.bindAddress
  target_eq : q.target = p.target
  compact_eq : q.tree.compact = p.tree.compact

/-- A proxy is written by its scheme, host, port and target alone. -/
theorem isCopy_of_host {q : Proxy} (hscheme : q.listen.scheme = p.listen.scheme)
    (hspoken : q.scheme = p.scheme) (hport : q.port = p.port)
    (hhost : q.listen.host = p.listen.host) (htarget : q.target = p.target) : p.IsCopy q := by
  have hbind : q.bindAddress = p.bindAddress := by
    rw [bindAddress, bindAddress, Url.hostText, Url.hostText, hhost, hport]
  have htree : q.tree = p.tree := by
    rw [tree, tree, listenText, listenText, hscheme, hbind, htarget]
  exact ⟨hscheme, hspoken, hport, hbind, htarget, congrArg _ htree⟩

/-- The proxy of a host and a port is one that is supported if its scheme is. -/
theorem create_ofHost (hp : p.IsSupported) (host : Host) (target : Url) :
    create (Url.ofHost p.listen.scheme host p.port) target =
      .ok ⟨Url.ofHost p.listen.scheme host p.port, target, p.scheme, p.port⟩ := by
  have hscheme : ListenScheme.parse (Url.ofHost p.listen.scheme host p.port).scheme =
      .ok p.scheme := hp.scheme_eq
  rw [create, hscheme, Url.portOrDefault_ofHost]

/-- An endpoint without proxies takes every proxy. -/
theorem exists_addProxy_empty {q : Proxy} {listen target : Url} (h : create listen target = .ok q)
    (endpointHost : String) (settings : ProxySettings) :
    ∃ e, (Endpoint.create endpointHost settings).addProxy listen target = (.ok q, e) := by
  have hfree : (Endpoint.create endpointHost settings).proxy? q.port = none := rfl
  rw [Endpoint.addProxy, h]
  dsimp only
  rw [hfree]
  exact ⟨_, rfl⟩

/-- **What is written of a proxy names a copy of it.** The proxy has a host to listen on, so the
address of all hosts never takes its place. -/
theorem isCopy_of_create {s : String} {listen target : Url} {p : Proxy}
    (hlisten : Url.parse s = .ok listen) (hcreate : create listen target = .ok p)
    (htarget : Url.parse target.text = .ok target)
    (hdomain : (SchemeClass.of listen.scheme).isSpecial = true → ∀ name,
      listen.host = some (.name name) → ¬ Domain.IsOrdinary name.toList →
        Host.ReadsBack true (.name name))
    (endpointHost : String) (settings : ProxySettings) :
    (∃ host, listen.host = some host ∧ p.bindAddress = host.text ++ ":" ++ toString p.port) ∧
      ∃ config q e, ProxyConfig.parse p.tree.compact = .ok config ∧
        (Endpoint.create endpointHost settings).addProxy config.listen config.target =
          (.ok q, e) ∧ p.IsCopy q := by
  obtain ⟨-, hcreate'⟩ | ⟨-, -, hcreate'⟩ | ⟨p', hcreate', rfl, rfl, hp⟩ :=
    create_cases listen target
  · rw [hcreate] at hcreate'
    cases hcreate'
  · rw [hcreate] at hcreate'
    cases hcreate'
  · obtain rfl := Except.ok.inj (hcreate.symm.trans hcreate')
    obtain ⟨host, hhost, hread, hport⟩ := hp.exists_host hlisten
    have hback : host.ReadsBack (SchemeClass.of p.listen.scheme).isSpecial :=
      hread.readsBack fun hspecial name heq hordinary => by
        rw [hspecial, heq]
        exact hdomain hspecial name (heq ▸ hhost) hordinary
    have hparse := hp.parse_listenText hhost hread hback hport
    obtain ⟨e, hadd⟩ :=
      exists_addProxy_empty (create_ofHost hp host p.target) endpointHost settings
    refine ⟨⟨host, hhost, ?_⟩, _, _, e, ProxyConfig.parse_object hparse htarget, hadd,
      isCopy_of_host rfl rfl rfl hhost.symm rfl⟩
    rw [bindAddress, Url.hostText, hhost]
    rfl

/-- A proxy on the port that its scheme implies. -/
def webProxy : Proxy where
  listen := .ofHost "http" (.name "web.test") 80
  target := ⟨"tcp", some ⟨"", none, some (.name "rack"), none⟩, "/app/service/web:3000", none, none⟩
  scheme := .http
  port := 80

/-- The port of `http://web.test:80` is left out by the reader, and written again. -/
theorem isCopy_of_webProxy :
    Url.parse "http://web.test:80" = .ok webProxy.listen ∧
      create webProxy.listen webProxy.target = .ok webProxy ∧
      Url.parse webProxy.target.text = .ok webProxy.target ∧
      ∃ config q e, ProxyConfig.parse webProxy.tree.compact = .ok config ∧
        (Endpoint.create "example.com" .standard).addProxy config.listen config.target =
          (.ok q, e) ∧ webProxy.IsCopy q := by
  have hordinary : Domain.IsOrdinary "web.test".toList := ⟨by decide, by decide⟩
  have hread : Host.IsRead true (.name "web.test") :=
    show Host.IsRead true (.name (String.ofList "web.test".toList)) from
      .domain (by decide) (by decide) fun c hc =>
        (Domain.isPlainChar_iff.1 (hordinary.plain c hc)).2.2
  have hback : Host.ReadsBack true (.name "web.test") :=
    hread.readsBack fun _ name heq hname => absurd hordinary (Host.name.inj heq ▸ hname)
  have htext : "http://web.test:80" =
      "http" ++ "://" ++ ((Host.name "web.test").text ++ ":" ++ toString 80) := by decide +kernel
  have hlisten : Url.parse "http://web.test:80" = .ok webProxy.listen := by
    rw [htext]
    exact Url.parse_host (fun _ => rfl) (by decide) (by decide) hread hback (by decide)
  have hcreate : create webProxy.listen webProxy.target = .ok webProxy := by decide +kernel
  have htarget : Url.parse webProxy.target.text = .ok webProxy.target := by decide +kernel
  have hdomain : (SchemeClass.of webProxy.listen.scheme).isSpecial = true → ∀ name,
      webProxy.listen.host = some (.name name) → ¬ Domain.IsOrdinary name.toList →
        Host.ReadsBack true (.name name) :=
    fun _ name heq _ => Option.some.inj heq ▸ hback
  exact ⟨hlisten, hcreate, htarget,
    (isCopy_of_create hlisten hcreate htarget hdomain "example.com" .standard).2⟩

end Proxy

end Gatehouse
