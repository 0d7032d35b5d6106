import Gatehouse.Proofs.Forwarding.Security
import Gatehouse.Proofs.Http.VisibleText
import Gatehouse.Proofs.Net.Addresses
import Gatehouse.Url.Parser

/-!
# The names of the servers in targets

A hop to a direct target that asks for TLS is secured under the text of the target's host. The text
passes from the writer of URLs to the reader of server names. The two agree on addresses of version
4 and on DNS names: the text is read as what the host stands for. They do not agree on addresses of
version 6, which URLs write in brackets and server names do not: no such text is read, and no hop to
such a target is ever secured.

## Main definitions

* `Host.Denotes`: the server that a host stands for.
* `RouterError.invalidServerName`: the failure of a text that names no server.

## Main results

* `ServerName.parse_v4`, `ServerName.parse_v6`: which texts of addresses name a server.
* `HttpForwarder.serverName_of_target`: which targets have a server that can be named.
* `HttpForwarder.unnamed_loopback`: a target whose server cannot be named.
-/

namespace Gatehouse

/-! ### The texts of hosts as names of servers -/

/-- The failure of a text that names no server. -/
def RouterError.invalidServerName (host : String) : RouterError :=
  .handshakeFailure ("invalid server name " ++ host ++ ": invalid dns name")

/-- The server that a host stands for. A name stands for a server if it is a DNS name. -/
inductive Host.Denotes : Host → ServerName → Prop
  | name {text : String} (h : ServerName.isDns text.toList = true) :
      Denotes (.name text) (.dns text)
  | v4 (x : Ipv4) : Denotes (.v4 x) (.ip (.v4 x))
  | v6 (x : Ipv6) : Denotes (.v6 x) (.ip (.v6 x))

namespace ServerName

/-- The last label of an address of version 4 is a number, so the address is no DNS name. -/
theorem isDns_v4 (x : Ipv4) : isDns x.text = false := by
  have hlast : x.parts.getLast? = some (Numeral.digits x.d.toNat) := rfl
  have hlabels : labels x.text = x.parts := by
    rw [labels, x.splitOn_text, hlast]
    exact if_neg fun h => Numeral.digits_ne_nil _ (Option.some.inj h.2)
  have hdigits : (Numeral.digits x.d.toNat).all Char.isDigit = true := by
    refine List.all_eq_true.2 fun c hc => ?_
    obtain ⟨d, hd, rfl⟩ := Numeral.exists_digit_of_mem_toDigits (by decide) hc
    have hall : ∀ d < 10, (Nat.digitChar d).isDigit = true := by decide
    exact hall d hd
  simp [isDns, hlabels, hlast, hdigits]

/-- An address of version 4 names the server with this address. -/
theorem parse_v4 (x : Ipv4) : parse (Host.v4 x).text = .ok (.ip (.v4 x)) := by
  simp [parse, Host.text, isDns_v4, Ip.parse?, Ipv4.parse?_text]

/-- A DNS name names the server with this name. -/
theorem parse_name {text : String} (h : isDns text.toList = true) :
    parse (Host.name text).text = .ok (.dns text) := if_pos h

/-- A text that starts with a bracket is no address. -/
theorem parse?_bracketed (cs : List Char) : Ip.parse? ('[' :: cs) = none := by
  have hdigit : ∀ c ∈ ('[' :: cs).head?, Numeral.hexDigit? c = none := by
    rintro _ ⟨⟩
    rfl
  have hv4 : Ipv4.parse? ('[' :: cs) = none := by
    rw [Ipv4.parse?, Ipv4.read_of_not_digit hdigit]
  have hgroups : Ipv6.readGroups 8 0 ('[' :: cs) = ([], false, '[' :: cs) :=
    Ipv6.readGroups_of_not_digit fun cs' hcs' => Option.some.inj hcs' ▸ hdigit
  have hv6 : Ipv6.parse? ('[' :: cs) = none := by simp [Ipv6.parse?, Ipv6.read, hgroups, readChar]
  rw [Ip.parse?, hv4, hv6]
  rfl

/-- An address of version 6 in brackets names no server. -/
theorem parse_v6 (x : Ipv6) :
    parse (Host.v6 x).text = .error (.invalidServerName (Host.v6 x).text) := by
  have htext : (Host.v6 x).text.toList = '[' :: (x.groupsText ++ [']']) := String.toList_ofList
  have hdns : ¬ isDns (Host.v6 x).text.toList = true := fun h => by
    rcases isLabelChar_of_isDns h (htext ▸ List.mem_cons_self) with hpoint | hlabel
    · cases hpoint
    · exact absurd hlabel (by decide)
  rw [parse, if_neg hdns, htext, parse?_bracketed]
  rfl

/-- The text of a host names the server that the host stands for, unless this is an address of
version 6. -/
theorem parse_of_denotes {h : Host} {name : ServerName} (hname : h.Denotes name)
    (hv6 : ∀ x, h ≠ .v6 x) : parse h.text = .ok name := by
  cases hname with
  | name hdns => exact parse_name hdns
  | v4 x => exact parse_v4 x
  | v6 x => exact absurd rfl (hv6 x)

end ServerName

/-! ### Securing hops to direct targets -/

namespace BackendServer

variable {s : BackendServer} {trust : Trust} {server : String}

/-- A hop cannot be secured under a text that names no server. -/
theorem secure_of_unnamed {e : RouterError} (h : ServerName.parse server = .error e) :
    s.secure (.tls trust server) = .error e := by
  simp only [secure, h]

/-- Under the name of a server, a hop does not fail for want of a name. -/
theorem secure_of_named {name : ServerName} (h : ServerName.parse server = .ok name)
    (text : String) : s.secure (.tls trust server) ≠ .error (.invalidServerName text) := by
  -- The texts of all other failures start with another letter.
  have hother (detail : String) :
      RouterError.handshakeFailure ("tls: " ++ detail) ≠ .invalidServerName text := fun heq => by
    have htext := congrArg (fun s => s.toList.head?) (RouterError.handshakeFailure.inj heq)
    simp [String.toList_append] at htext
  simp only [secure, h]
  cases s.tls with
  | plain =>
    exact mt Awaited.error.inj (hother "received corrupt message of type InvalidContentType")
  | speaks tls =>
    simp only [TlsPeer.begin]
    split
    next e _ => exact mt Awaited.error.inj (hother e.message)
    next => rintro ⟨⟩
  | fails reason => exact mt Awaited.error.inj (hother reason)
  | silent => rintro ⟨⟩

end BackendServer

namespace HttpForwarder

/-- The names of the servers of direct targets that ask for TLS, on both paths. Both take the text
of the host of the target. This is read as the server that the host stands for just if it is no
address of version 6. Then no hop fails for want of a name; otherwise every hop does, and so does
every request that is taken up and reaches the backend. -/
theorem serverName_of_target {listen target : Url} {host : String} {f : HttpForwarder}
    (hcreate : create listen target host = .ok f) (hdirect : target.isRackTarget = false)
    (htls : asksForTls target.scheme = true) {h : Host} (hhost : target.host = some h)
    {name : ServerName} (hname : h.Denotes name) :
    f.requestSecurity = .tls .publicAuthorities h.text ∧
    f.webSocketSecurity = .tls .anyone h.text ∧
    (ServerName.parse h.text = .ok name ↔ ∀ x, h ≠ .v6 x) ∧
    ((∀ x, h ≠ .v6 x) → ∀ (s : BackendServer) (r : Request) (text : String),
      s.secure (f.securityFor r) ≠ .error (.invalidServerName text)) ∧
    (∀ x, h = .v6 x →
      (∀ (s : BackendServer) (r : Request),
        s.secure (f.securityFor r) = .error (.invalidServerName h.text)) ∧
      ∀ (τ : Type) (resolver : Resolver τ) (servers : BackendStream τ → BackendServer)
        (draws : Draws) (key : Bytes) (peer : SocketAddress) (port : Nat) (r : Request)
        (stream : BackendStream τ), (resolver.connect target draws).result = .ok stream →
        ¬ r.IsRefused → (f.handle resolver servers draws key peer port r).outcome =
          .failed (.invalidServerName h.text)) := by
  obtain ⟨htarget, hrequests, hwebSocket⟩ := eq_of_create hcreate
  have hserver : target.serverName host = h.text := by
    simp [Url.serverName, hdirect, Url.hostText, hhost]
  rw [HopSecurity.forRequests_eq, htls, if_pos rfl, hdirect, hserver] at hrequests
  rw [HopSecurity.forWebSocket_eq, htls, Bool.true_or, if_pos rfl, hserver] at hwebSocket
  have hsecurity (r : Request) : ∃ trust, f.securityFor r = .tls trust h.text := by
    unfold securityFor
    split
    next => exact ⟨_, hwebSocket⟩
    next => exact ⟨_, hrequests⟩
  have hunnamed (x : Ipv6) (hx : h = .v6 x) (s : BackendServer) (r : Request) :
      s.secure (f.securityFor r) = .error (.invalidServerName h.text) := by
    obtain ⟨trust, hsecurity⟩ := hsecurity r
    rw [hsecurity]
    exact BackendServer.secure_of_unnamed (hx ▸ ServerName.parse_v6 x)
  refine ⟨hrequests, hwebSocket, ⟨?_, ServerName.parse_of_denotes hname⟩, ?_, ?_⟩
  · rintro hparse x rfl
    cases hparse.symm.trans (ServerName.parse_v6 x)
  · intro hv6 s r text
    obtain ⟨trust, hsecurity⟩ := hsecurity r
    rw [hsecurity]
    exact BackendServer.secure_of_named (ServerName.parse_of_denotes hname hv6) text
  · intro x hx
    refine ⟨hunnamed x hx, ?_⟩
    intro τ resolver servers draws key peer port r stream hconnect htaken
    exact outcome_of_failure htaken (.unsecured (htarget ▸ hconnect) (hunnamed x hx _ r))

/-- A direct target with the given host that asks for TLS. -/
def secureTarget (h : Host) : Url :=
  ⟨"https", some ⟨"", none, some h, none⟩, "/", none, none⟩

/-- A server with an address of version 4 can be named. -/
theorem serverName_of_loopback :
    (secureTarget (.v4 ⟨127, 0, 0, 1⟩)).text = "https://127.0.0.1/" ∧
      ServerName.parse "127.0.0.1" = .ok (.ip (.v4 ⟨127, 0, 0, 1⟩)) := by
  have hdirect : (secureTarget (.v4 ⟨127, 0, 0, 1⟩)).isRackTarget = false := by decide +kernel
  obtain ⟨f, hcreate⟩ := @exists_create ⟨"http", none, "", none, none⟩ _ "a.test" hdirect
  obtain ⟨-, -, hparse, -⟩ := serverName_of_target hcreate hdirect rfl rfl (.v4 ⟨127, 0, 0, 1⟩)
  exact ⟨by decide +kernel, hparse.2 nofun⟩

/-- The same server cannot be named by its address of version 6, though both paths take its text
for the name. -/
theorem unnamed_loopback :
    Url.parse "https://[::1]/" = .ok (secureTarget (.v6 ⟨0, 0, 0, 0, 0, 0, 0, 1⟩)) ∧
      (secureTarget (.v6 ⟨0, 0, 0, 0, 0, 0, 0, 1⟩)).isRackTarget = false ∧
      (∃ f, create ⟨"http", none, "", none, none⟩ (secureTarget (.v6 ⟨0, 0, 0, 0, 0, 0, 0, 1⟩))
          "a.test" = .ok f ∧ f.requestSecurity.server? = some "[::1]" ∧
        f.webSocketSecurity.server? = some "[::1]") ∧
      ServerName.parse "[::1]" = .error (.invalidServerName "[::1]") := by
  have hdirect : (secureTarget (.v6 ⟨0, 0, 0, 0, 0, 0, 0, 1⟩)).isRackTarget = false := by
    decide +kernel
  obtain ⟨f, hcreate⟩ := @exists_create ⟨"http", none, "", none, none⟩ _ "a.test" hdirect
  obtain rfl := eq_mk_of_create hcreate
  exact ⟨by decide +kernel, hdirect, ⟨_, hcreate, by decide +kernel, by decide +kernel⟩,
    by decide +kernel⟩

end HttpForwarder

end Gatehouse
