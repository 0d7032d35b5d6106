import Gatehouse.Backend.Resolver
import Gatehouse.Proofs.Backend.Selection
import Gatehouse.Rack.Description
import Mathlib.Data.List.Nodup

/-!
# Where the tunnels of a described rack lead

A process is picked from those of a service, but the tunnel to it is asked for by its id alone, and
the rack looks the id up among the processes of all services of the app. A description may repeat
an id. So a tunnel leads to the first process of the app that has the id of the one picked, and
this is the one picked, whatever the random words are, just if no process of the service has an id
that comes up before it in the description.

## Main definitions

* `LocalApp.served`: the processes of a service.
* `LocalApp.named?`: the process that an id stands for.
* `LocalRack.Dials`: a request dials an address.
* `LocalRack.DialsPicked`, `LocalRack.DialsOwn`: every request for a service dials the process
  picked, or one of its own.

## Main results

* `LocalRack.hostPort_of_colon`, `LocalRack.hostPort_of_open`: a host with colons is put in
  brackets, unless it has one.
* `LocalApp.named?_eq_of_nodup`: if no id is repeated, an id stands for the process that has it.
* `LocalRack.resolve_served`, `LocalRack.dials_service_iff`: reaching a service of a described rack.
* `LocalRack.service_dial`: which process a request for a service dials.
-/

namespace Gatehouse

/-! ### Written addresses -/

namespace LocalRack

/-- A host with colons is put in brackets. -/
theorem hostPort_of_colon {host : String} (hcolon : ':' ∈ host.toList)
    (hopen : host.toList.head? ≠ some '[') (port : Nat) :
    hostPort host port = "[" ++ host ++ "]" ++ ":" ++ toString port := by
  simp [hostPort, hcolon, hopen]

/-- A host that has its bracket already is left as it is. -/
theorem hostPort_of_open {host : String} (hopen : host.toList.head? = some '[') (port : Nat) :
    hostPort host port = host ++ ":" ++ toString port := by
  simp [hostPort, hopen]

/-- A host without colons is left as it is. -/
theorem hostPort_of_no_colon {host : String} (hcolon : ':' ∉ host.toList) (port : Nat) :
    hostPort host port = host ++ ":" ++ toString port := by
  simp [hostPort, hcolon]

end LocalRack

/-! ### Look-ups in an app -/

namespace LocalApp

/-- The processes of a service, in the order of the description. -/
def served (a : LocalApp) (service : String) : List LocalProcess :=
  a.processes.filter (·.service == service)

/-- The process that an id stands for: the first one that has it, of whatever service. -/
def named? (a : LocalApp) (id : String) : Option LocalProcess :=
  a.processes.find? (·.id == id)

variable {a : LocalApp} {service : String} {p : LocalProcess}

theorem mem_served : p ∈ a.served service ↔ p ∈ a.processes ∧ p.service = service := by
  simp [served]

/-- The id of a process stands for some process of the app that has it. -/
theorem exists_named? (hp : p ∈ a.processes) :
    ∃ first, a.named? p.id = some first ∧ first ∈ a.processes ∧ first.id = p.id := by
  cases h : a.named? p.id with
  | none => exact absurd (List.find?_eq_none.1 h p hp) (by simp)
  | some first =>
    exact ⟨first, rfl, List.mem_of_find?_eq_some h, by simpa using List.find?_some h⟩

/-- If no id is repeated, the id of a process stands for that process. -/
theorem named?_eq_of_nodup (hids : (a.processes.map (·.id)).Nodup) (hp : p ∈ a.processes) :
    a.named? p.id = some p := by
  obtain ⟨first, hnamed, hfirst, hid⟩ := exists_named? hp
  rw [hnamed, List.inj_on_of_nodup_map hids hfirst hp hid]

end LocalApp

/-! ### Requests for a service -/

namespace LocalRack

variable {r : LocalRack} {app : String} {a : LocalApp}

/-- A described process as it is listed. -/
def listed (app : String) (p : LocalProcess) : Process := ⟨p.id, app, p.service⟩

theorem list_eq (happ : r.app app = .ok a) (service : String) :
    r.list app service = .ok ((a.served service).map (listed app)) := by
  rw [list, happ]
  rfl

theorem processAddress_eq (happ : r.app app = .ok a) {id : String} {p : LocalProcess}
    (hnamed : a.named? id = some p) (port : Nat) :
    r.processAddress app id port = .ok (hostPort p.host port) := by
  unfold LocalApp.named? at hnamed
  simp only [processAddress, happ, hnamed]

/-- Reaching a service in a described rack: the tunnel leads to the process that the id of the
process picked stands for. -/
theorem resolve_served {τ : Type} (happ : r.app app = .ok a) {service : String} {draws : Draws}
    {entry first : LocalProcess} {used : Nat}
    (hpick : Selection.pick (a.served service) draws = (some entry, used))
    (hnamed : a.named? entry.id = some first) (port : Nat) (connect : String → Awaited IoError τ)
    (network : Network) (connectTimeout : Nat) (idleTimeout : Option Nat) :
    (Resolver.mk (r.rack connect) network connectTimeout idleTimeout).resolve
        ⟨app, .service, service, some port⟩ draws =
      ⟨Connecting.ofTunnel (openTunnel connect (hostPort first.host port)),
        [.list app service, .processTunnel app entry.id port], used⟩ := by
  have hlist := list_eq happ service
  have haddress := processAddress_eq happ hnamed port
  simp only [Resolver.resolve, Connecting.toWorkload, Connecting.toService, Connecting.run,
    Resolver.surroundings, Resolver.answer, rack, hlist, Selection.pick_map, hpick, Option.map_some,
    listed, haddress, Awaited.ofExcept_ok, Awaited.bind]

/-- A request reaches the dial of an address: whatever connecting to this address gives is what
comes of the request. -/
def Dials (r : LocalRack) (target : Target) (draws : Draws) (address : String) : Prop :=
  ∀ {τ : Type} (connect : String → Awaited IoError τ) (network : Network) (connectTimeout : Nat)
    (idleTimeout : Option Nat),
    ((Resolver.mk (r.rack connect) network connectTimeout idleTimeout).resolve target draws).result
      = Connecting.ofTunnel (openTunnel connect address)

/-- A request dials one address at most. -/
theorem Dials.unique {target : Target} {draws : Draws} {address address' : String}
    (h : r.Dials target draws address) (h' : r.Dials target draws address') :
    address = address' := by
  have heq := (h .ok .unreachable 0 none).symm.trans (h' .ok .unreachable 0 none)
  simpa [Connecting.ofTunnel, openTunnel] using heq

/-- The address that a request for a service dials. -/
theorem dials_service_iff {service : String} {port : Nat} {draws : Draws} {address : String}
    (happ : r.app app = .ok a) :
    r.Dials ⟨app, .service, service, some port⟩ draws address ↔
      ∃ entry first used, Selection.pick (a.served service) draws = (some entry, used) ∧
        a.named? entry.id = some first ∧ address = hostPort first.host port := by
  constructor
  · intro h
    by_cases hempty : a.served service = []
    · have hnone := h .ok .unreachable 0 none
      simp [Resolver.resolve, Connecting.toWorkload, Connecting.toService, Connecting.run,
        Resolver.surroundings, Resolver.answer, rack, list_eq happ, hempty, Connecting.ofTunnel,
        openTunnel] at hnone
    · obtain ⟨entry, used, hpick, hmem, -⟩ := Selection.exists_pick_eq hempty draws
      obtain ⟨first, hnamed, -, -⟩ := LocalApp.exists_named? (LocalApp.mem_served.1 hmem).1
      refine ⟨entry, first, used, hpick, hnamed, h.unique fun connect network ct it => ?_⟩
      rw [resolve_served happ hpick hnamed]
  · rintro ⟨entry, first, used, hpick, hnamed, rfl⟩ τ connect network ct it
    rw [resolve_served happ hpick hnamed]

/-- A request for a service dials the address of the process picked, whatever the random words
are. -/
def DialsPicked (r : LocalRack) (app service : String) (port : Nat) : Prop :=
  ∀ {a draws address entry used}, r.app app = .ok a →
    r.Dials ⟨app, .service, service, some port⟩ draws address →
    Selection.pick (a.served service) draws = (some entry, used) →
    address = hostPort entry.host port

/-- A request for a service dials the address of one of its processes, whatever the random words
are. -/
def DialsOwn (r : LocalRack) (app service : String) (port : Nat) : Prop :=
  ∀ {a draws address}, r.app app = .ok a →
    r.Dials ⟨app, .service, service, some port⟩ draws address →
    ∃ p ∈ a.served service, address = hostPort p.host port

/-- What holds of every process that may be picked and the address dialled for it shows in the
description. -/
theorem forall_dials_iff (happ : r.app app = .ok a) {service : String}
    (hlen : (a.served service).length ≤ Selection.wordCount) (port : Nat)
    (P : LocalProcess → String → Prop) :
    (∀ draws address entry used, r.Dials ⟨app, .service, service, some port⟩ draws address →
      Selection.pick (a.served service) draws = (some entry, used) → P entry address) ↔
      ∀ entry ∈ a.served service, ∀ first ∈ a.named? entry.id,
        P entry (hostPort first.host port) := by
  constructor
  · intro h entry hentry first hfirst
    obtain ⟨draws, used, hpick⟩ := Selection.exists_draws_pick_eq hentry hlen
    have hdials : r.Dials ⟨app, .service, service, some port⟩ draws (hostPort first.host port) :=
      (dials_service_iff happ).2 ⟨entry, first, used, hpick, hfirst, rfl⟩
    exact h draws _ entry used hdials hpick
  · intro h draws address entry used hdials hpick
    obtain ⟨entry', first, used', hpick', hnamed, rfl⟩ := (dials_service_iff happ).1 hdials
    cases hpick.symm.trans hpick'
    exact h entry (Selection.mem_of_pick hpick) first hnamed

/-- Requests for a service always dial the process picked just if the id of each process of the
service stands for a process at the same address. -/
theorem dialsPicked_iff (happ : r.app app = .ok a) {service : String}
    (hlen : (a.served service).length ≤ Selection.wordCount) (port : Nat) :
    r.DialsPicked app service port ↔ ∀ entry ∈ a.served service, ∀ first ∈ a.named? entry.id,
      hostPort first.host port = hostPort entry.host port := by
  rw [← forall_dials_iff happ hlen port fun entry address => address = hostPort entry.host port]
  constructor
  · exact fun h draws address entry used hdials hpick => h happ hdials hpick
  · intro h a' draws address entry used happ' hdials hpick
    cases happ.symm.trans happ'
    exact h draws address entry used hdials hpick

/-- Requests for a service always dial a process of it just if the id of each of its processes
stands for a process at the address of one of them. -/
theorem dialsOwn_iff (happ : r.app app = .ok a) {service : String}
    (hlen : (a.served service).length ≤ Selection.wordCount) (port : Nat) :
    r.DialsOwn app service port ↔ ∀ entry ∈ a.served service, ∀ first ∈ a.named? entry.id,
      ∃ p ∈ a.served service, hostPort first.host port = hostPort p.host port := by
  rw [← forall_dials_iff happ hlen port
    fun _ address => ∃ p ∈ a.served service, address = hostPort p.host port]
  constructor
  · exact fun h draws address entry used hdials hpick => h happ hdials
  · intro h a' draws address happ' hdials
    cases happ.symm.trans happ'
    obtain ⟨entry, _, used, hpick, -, -⟩ := (dials_service_iff happ).1 hdials
    exact h draws address entry used hdials hpick

/-- Where a request for a service leads in a described rack. The address dialled is that of the
first process with the id of the one picked. For all random words this is the address of the process
picked, or of some process of the service, just if the id of each process of the service stands for
a process at such an address; if no id is repeated it does. The service has no more processes than a
random word has values, so that each of them may be picked. -/
theorem service_dial (happ : r.app app = .ok a) (service : String)
    (hlen : (a.served service).length ≤ Selection.wordCount) (port : Nat) :
    (∀ draws address, r.Dials ⟨app, .service, service, some port⟩ draws address ↔
      ∃ entry first used, Selection.pick (a.served service) draws = (some entry, used) ∧
        a.named? entry.id = some first ∧ address = hostPort first.host port) ∧
    (r.DialsPicked app service port ↔ ∀ entry ∈ a.served service, ∀ first ∈ a.named? entry.id,
      hostPort first.host port = hostPort entry.host port) ∧
    (r.DialsOwn app service port ↔ ∀ entry ∈ a.served service, ∀ first ∈ a.named? entry.id,
      ∃ p ∈ a.served service, hostPort first.host port = hostPort p.host port) ∧
    ((a.processes.map (·.id)).Nodup →
      r.DialsPicked app service port ∧ r.DialsOwn app service port) ∧
    (∀ host : String, ':' ∈ host.toList → host.toList.head? ≠ some '[' →
      hostPort host port = "[" ++ host ++ "]" ++ ":" ++ toString port) ∧
    (∀ host : String, ':' ∉ host.toList ∨ host.toList.head? = some '[' →
      hostPort host port = host ++ ":" ++ toString port) := by
  have hpicked := dialsPicked_iff happ hlen port
  have hown := dialsOwn_iff happ hlen port
  refine ⟨fun draws address => dials_service_iff happ, hpicked, hown, fun hids => ?_,
    fun host hcolon hopen => hostPort_of_colon hcolon hopen port, ?_⟩
  · -- An id stands for the process itself.
    have hself : ∀ entry ∈ a.served service, ∀ first ∈ a.named? entry.id, first = entry := by
      intro entry hentry first hfirst
      have hnamed := LocalApp.named?_eq_of_nodup hids (LocalApp.mem_served.1 hentry).1
      exact Option.some.inj ((Option.mem_def.1 hfirst).symm.trans hnamed)
    constructor
    · refine hpicked.2 fun entry hentry first hfirst => ?_
      rw [hself entry hentry first hfirst]
    · refine hown.2 fun entry hentry first hfirst => ⟨entry, hentry, ?_⟩
      rw [hself entry hentry first hfirst]
  · rintro host (hcolon | hopen)
    · exact hostPort_of_no_colon hcolon port
    · exact hostPort_of_open hopen port

/-- An app with two processes of one id, of different services. -/
def repeatedIdApp : LocalApp :=
  ⟨[⟨"p", "s1", "127.0.0.1"⟩, ⟨"p", "s2", "127.0.0.3"⟩], .empty⟩

/-- The rack of that app. -/
def repeatedId : LocalRack := .withApp .empty "a" repeatedIdApp

theorem service_dial_of_repeatedId :
    repeatedId.app "a" = .ok repeatedIdApp ∧
    (repeatedIdApp.served "s1").length ≤ Selection.wordCount ∧
    repeatedId.DialsPicked "a" "s1" 1 ∧ repeatedId.DialsOwn "a" "s1" 1 := by
  have happ : repeatedId.app "a" = .ok repeatedIdApp := by decide
  have hlen : (repeatedIdApp.served "s1").length ≤ Selection.wordCount := by decide
  obtain ⟨-, hpicked, hown, -⟩ := service_dial happ "s1" hlen 1
  exact ⟨happ, hlen, hpicked.2 (by decide), hown.2 (by decide)⟩

/-- A description that repeats an id is read, and a request for one service then dials the process
of another one, whatever the random words are. -/
theorem dials_another_service :
    parse ("\x7b\"apps\":\x7b\"a\":\x7b\"processes\":[" ++
      "\x7b\"id\":\"p\",\"service\":\"s1\",\"host\":\"127.0.0.1\"\x7d," ++
      "\x7b\"id\":\"p\",\"service\":\"s2\",\"host\":\"127.0.0.3\"\x7d]\x7d\x7d\x7d") =
      .ok repeatedId ∧
    repeatedId.list "a" "s2" = .ok [⟨"p", "a", "s2"⟩] ∧
    (∀ draws, repeatedId.Dials ⟨"a", .service, "s2", some 1⟩ draws "127.0.0.1:1") ∧
    ¬ repeatedId.DialsPicked "a" "s2" 1 ∧ ¬ repeatedId.DialsOwn "a" "s2" 1 := by
  have happ : repeatedId.app "a" = .ok repeatedIdApp := by decide
  have hlen : (repeatedIdApp.served "s2").length ≤ Selection.wordCount := by decide
  refine ⟨by decide +kernel, by decide, fun draws => ?_, ?_, ?_⟩
  · obtain ⟨entry, used, hpick, hmem, -⟩ :=
      Selection.exists_pick_eq (show repeatedIdApp.served "s2" ≠ [] by decide) draws
    obtain rfl : entry = ⟨"p", "s2", "127.0.0.3"⟩ := List.mem_singleton.1 hmem
    exact (dials_service_iff happ).2
      ⟨_, ⟨"p", "s1", "127.0.0.1"⟩, used, hpick, by decide, by decide⟩
  · rw [dialsPicked_iff happ hlen]
    decide
  · rw [dialsOwn_iff happ hlen]
    decide

end LocalRack

end Gatehouse
