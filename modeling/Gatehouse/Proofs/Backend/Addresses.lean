import Gatehouse.Backend.Address
import Gatehouse.Proofs.Net.Addresses
import Gatehouse.Proofs.Registry.Calls
import Gatehouse.Proofs.Url.Texts

/-!
# The addresses of URLs

The address of a URL is the text of its host and its port with a colon between them. The host may
have colons of its own, but the port has none, so the last colon of the address is the one between
the two, and an address belongs to one host and one port. An address with a literal host is read as
the socket address of this host without any look-up.

A proxy writes the address that it listens on by itself, with all addresses of the machine in place
of a missing host. A listen URL with a port has a host, so the two ways to write it agree.

## Main definitions

* `Host.ip?`: the internet address that a host is.
* `Url.IsAddress`: an address belongs to the host and the port of a URL.

## Main results

* `Url.dialAddress_eq_ok_iff`: which URLs have an address, and what it is.
* `Url.isAddress_of_dialAddress`: the address of a URL belongs to its host and port.
* `Url.eq_of_dialAddress_eq`: an address belongs to one host and one port.
* `Proxy.bindAddress_of_create`: a proxy listens on the address of its listen URL.
* `Url.dialAddress_of_parse`: the addresses of all URLs.
-/

namespace Gatehouse

/-- The internet address that a host is, unless it is a name. -/
def Host.ip? : Host → Option Ip
  | .name _ => none
  | .v4 x => some (.v4 x)
  | .v6 x => some (.v6 x)

namespace Url

variable {u v : Url} {s t address : String}

/-- The address of a URL is there if the URL has a host and a port. -/
theorem dialAddress_eq_ok_iff : u.dialAddress = .ok address ↔ ∃ host port,
    u.host = some host ∧ u.portOrDefault = some port ∧
      host.text ++ ":" ++ toString port = address := by
  unfold dialAddress
  cases u.host with
  | none => simp
  | some host =>
    cases u.portOrDefault with
    | none => simp
    | some port => simp

/-- An address belongs to the host and the port of a URL: they are the two sides of its last colon,
and if the host is an internet address, the socket address is the one of this host and port. -/
structure IsAddress (address : String) (host : Host) (port : Nat) : Prop where
  cut : Text.cutLast ':' address.toList = some (host.text.toList, (toString port).toList)
  read : ∀ ip ∈ host.ip?, SocketAddress.parse? address = some ⟨ip, port⟩

/-- A host and a port with a colon between them are the address of the two. -/
theorem isAddress_text (host : Host) {port : Nat} (hport : port < 65536) :
    IsAddress (host.text ++ ":" ++ toString port) host port := by
  have htext : (host.text ++ ":" ++ toString port).toList =
      host.text.toList ++ ':' :: Numeral.digits port := by
    rw [String.toList_append, String.toList_append, List.append_assoc]
    exact congrArg (host.text.toList ++ ':' :: ·) Nat.toList_repr
  -- The host may have colons, so the address is cut at the last one, which is that of the port.
  have hcolon : ':' ∉ Numeral.digits port :=
    fun hmem => absurd (Numeral.isSome_digit?_of_mem_digits hmem) (by decide)
  constructor
  · rw [htext, Text.cutLast_append _ hcolon]
    exact congrArg (fun digits => some (host.text.toList, digits)) Nat.toList_repr.symm
  · intro ip hip
    cases host with
    | name => cases hip
    | v4 x =>
      cases hip
      refine SocketAddress.parse?_v4 x hport ?_
      rw [htext, Host.text, String.toList_ofList]
    | v6 x =>
      cases hip
      refine SocketAddress.parse?_v6 x hport ?_
      rw [htext, Host.text, String.toList_ofList, List.append_assoc]
      rfl

/-- The address of a URL that has been read is the one of its host and port. -/
theorem isAddress_of_dialAddress (hu : parse s = .ok u) (h : u.dialAddress = .ok address) :
    ∃ host port, u.host = some host ∧ u.portOrDefault = some port ∧ port < 65536 ∧
      IsAddress address host port := by
  obtain ⟨host, port, hhost, hport, rfl⟩ := dialAddress_eq_ok_iff.1 h
  obtain ⟨-, -, -, hlt⟩ := exists_host_of_port hu hport
  exact ⟨host, port, hhost, hport, hlt, isAddress_text host hlt⟩

/-- URLs of the same address have the same text of the host and the same port. If their schemes read
hosts in the same way, they have the same host. -/
theorem eq_of_dialAddress_eq (hu : parse s = .ok u) (hv : parse t = .ok v)
    (h : u.dialAddress = .ok address) (h' : v.dialAddress = .ok address) :
    u.hostText = v.hostText ∧ u.portOrDefault = v.portOrDefault ∧
      ((SchemeClass.of u.scheme).isSpecial = (SchemeClass.of v.scheme).isSpecial →
        u.host = v.host) := by
  obtain ⟨host, port, hhost, hport, -, haddress⟩ := isAddress_of_dialAddress hu h
  obtain ⟨host', port', hhost', hport', -, haddress'⟩ := isAddress_of_dialAddress hv h'
  obtain ⟨htext, hdigits⟩ := Prod.mk.inj (Option.some.inj (haddress.cut.symm.trans haddress'.cut))
  have hsame : port = port' := Numeral.toString_injective (String.toList_inj.1 hdigits)
  refine ⟨?_, ?_, fun hclass => ?_⟩
  · rw [hostText, hostText, hhost, hhost']
    exact congrArg some (String.toList_inj.1 htext)
  · rw [hport, hport', hsame]
  · obtain ⟨x, hx, hread, -⟩ := exists_host_of_port hu hport
    obtain ⟨y, hy, hread', -⟩ := exists_host_of_port hv hport'
    obtain rfl : host = x := Option.some.inj (hhost.symm.trans hx)
    obtain rfl : host' = y := Option.some.inj (hhost'.symm.trans hy)
    rw [hx, hy, hread.eq_of_text_eq (hclass ▸ hread') (String.toList_inj.1 htext)]

end Url

/-- A proxy listens on the address of its listen URL. -/
theorem Proxy.bindAddress_of_create {s : String} {listen target : Url} {p : Proxy}
    (hlisten : Url.parse s = .ok listen) (h : create listen target = .ok p) :
    listen.dialAddress = .ok p.bindAddress := by
  rcases create_cases listen target with ⟨-, hfail⟩ | ⟨-, -, hfail⟩ | ⟨q, hq, rfl, -, hsupported⟩
  · cases h.symm.trans hfail
  · cases h.symm.trans hfail
  · obtain rfl : p = q := Except.ok.inj (h.symm.trans hq)
    obtain ⟨host, hhost, -, -⟩ := Url.exists_host_of_port hlisten hsupported.port_eq
    refine Url.dialAddress_eq_ok_iff.2 ⟨host, p.port, hhost, hsupported.port_eq, ?_⟩
    rw [bindAddress, Url.hostText, hhost]
    rfl

/-- A URL that has been read has an address if it has a host and a port. The address is cut at its
last colon into these two, so it belongs to no other host and port, and it is read as the socket
address of a host that is an internet address. A proxy listens on the address of its listen URL. -/
theorem Url.dialAddress_of_parse {s : String} {u : Url} (hu : parse s = .ok u) :
    ((∃ address, u.dialAddress = .ok address) ↔ u.host ≠ none ∧ u.portOrDefault ≠ none) ∧
    (∀ address, u.dialAddress = .ok address → ∃ host port,
      u.host = some host ∧ u.portOrDefault = some port ∧ port < 65536 ∧
        IsAddress address host port) ∧
    (∀ t v address, parse t = .ok v → u.dialAddress = .ok address →
      v.dialAddress = .ok address →
        u.hostText = v.hostText ∧ u.portOrDefault = v.portOrDefault ∧
          ((SchemeClass.of u.scheme).isSpecial = (SchemeClass.of v.scheme).isSpecial →
            u.host = v.host)) ∧
    ∀ target p, Proxy.create u target = .ok p → u.dialAddress = .ok p.bindAddress := by
  refine ⟨?_, fun address h => isAddress_of_dialAddress hu h,
    fun t v address hv h h' => eq_of_dialAddress_eq hu hv h h',
    fun target p h => Proxy.bindAddress_of_create hu h⟩
  simp only [dialAddress_eq_ok_iff, Option.ne_none_iff_exists']
  constructor
  · rintro ⟨address, host, port, hhost, hport, -⟩
    exact ⟨⟨host, hhost⟩, port, hport⟩
  · rintro ⟨⟨host, hhost⟩, port, hport⟩
    exact ⟨_, host, port, hhost, hport, rfl⟩

/-- The loopback address of version 6, on the port that `https` implies. -/
theorem Url.dialAddress_loopback :
    let loopback : Host := .v6 ⟨0, 0, 0, 0, 0, 0, 0, 1⟩
    let u : Url := .ofHost "https" loopback 443
    parse "https://[::1]/" = .ok u ∧ u.dialAddress = .ok "[::1]:443" ∧
      IsAddress "[::1]:443" loopback 443 ∧
        ∃ p, Proxy.create u u = .ok p ∧ p.bindAddress = "[::1]:443" := by
  intro loopback u
  have hu : parse "https://[::1]/" = .ok u := by decide +kernel
  have haddress : u.dialAddress = .ok "[::1]:443" := by decide +kernel
  obtain ⟨-, hparts, -, hproxy⟩ := dialAddress_of_parse hu
  obtain ⟨host, port, hhost, hport, -, hboth⟩ := hparts _ haddress
  obtain rfl : loopback = host := Option.some.inj hhost
  obtain rfl : 443 = port := Option.some.inj hport
  have hcreate : Proxy.create u u = .ok ⟨u, u, .https, 443⟩ := by decide +kernel
  exact ⟨hu, haddress, hboth, _, hcreate,
    Except.ok.inj ((hproxy u _ hcreate).symm.trans haddress)⟩

end Gatehouse
