import Gatehouse.Backend.Resolver
import Gatehouse.Proofs.Backend.Selection

/-!
# The calls that connecting makes

An attempt to connect to a target URL takes one of a few courses. They differ in the target and in
what the rack and the network answer, and each tells the calls that are made, what comes of them,
and how many random words are used. Nothing is asked twice, a tunnel is opened to a process of the
list that the same attempt has just been given, and no tunnel is asked for where there is no such
list. The rack and the network may change with every call and between attempts, and the rack may
never answer.

## Main definitions

* `Surroundings.Picks`: an attempt picks a process of a service.
* `Surroundings.Course`: the courses of an attempt, with their calls.
* `Surroundings.Session`: attempts one after the other, each with a course of its own.

## Main results

* `Target.exists_port_of_parse`: a service that a path names has a port.
* `Surroundings.course_iff`: an attempt takes exactly one course.
* `Surroundings.session_iff`: and so does each attempt of a sequence.
-/

namespace Gatehouse

/-! ### Workloads that a path names -/

namespace Target

theorem exists_port_of_portOf {selector token : List Char} {port : Option Nat}
    (h : portOf .service selector token = .ok port) : ∃ n, port = some n := by
  unfold portOf at h
  cases hread : Numeral.readPort token with
  | ok n =>
    simp only [hread] at h
    cases h
    exact ⟨n, rfl⟩
  | error e =>
    simp only [hread] at h
    cases h

/-- A service that a selector names has a port. -/
theorem exists_port_of_ofSelector {app selector : List Char} {kind : TargetKind} {t : Target}
    (h : ofSelector app kind selector = .ok t) (hkind : t.kind = .service) :
    ∃ port, t.port = some port := by
  unfold ofSelector at h
  split at h
  next name token _ _ =>
    split at h
    next => cases h
    next =>
      cases hport : portOf kind selector token with
      | error e => simp [hport, Except.map] at h
      | ok port =>
        simp only [hport, Except.map, Except.ok.injEq] at h
        subst h
        have hkind : kind = .service := hkind
        exact exists_port_of_portOf (hkind ▸ hport)
  next => cases h

/-- A service that a path names has a port. -/
theorem exists_port_of_parse {path : String} {t : Target} (h : parse path = .ok t)
    (hkind : t.kind = .service) : ∃ port, t.port = some port := by
  unfold parse at h
  split at h
  next =>
    split at h
    next => cases h
    next =>
      split at h
      next => cases h
      next => exact exists_port_of_ofSelector h hkind
  next => cases h

end Target

namespace Surroundings

variable {σ τ : Type}

/-! ### One attempt -/

/-- An attempt to reach a service picks a process: the rack has listed the processes of the service
that the path names, and the process is one of them. -/
structure Picks (w : Surroundings σ τ) (s : σ) (target : Url) (draws : Draws) (app name : String)
    (port : Nat) (p : Process) (used : Nat) : Prop where
  isRackTarget : target.isRackTarget = true
  rackTarget : target.rackTarget = .ok ⟨app, .service, name, some port⟩
  picked : ∃ processes, w.answer s (.list app name) = .ok processes ∧ p ∈ processes ∧
    Selection.pick processes draws = (some p, used)

/-- The courses that an attempt to connect may take, with the calls that it makes, what comes of
them, and the random words that it uses. -/
inductive Course (w : Surroundings σ τ) (s : σ) (target : Url) (draws : Draws) :
    Resolution τ → Prop
  /-- The path names no workload. -/
  | rejected {e : TargetError} (hrack : target.isRackTarget = true)
      (hpath : target.rackTarget = .error e) :
      Course w s target draws ⟨.error (.target e), [], 0⟩
  /-- The rack does not list the processes of the service. -/
  | unlisted {app name : String} {port : Nat} {e : RackError} (hrack : target.isRackTarget = true)
      (hpath : target.rackTarget = .ok ⟨app, .service, name, some port⟩)
      (hlist : w.answer s (.list app name) = .error e) :
      Course w s target draws ⟨.error (.rack e), [.list app name], 0⟩
  /-- The rack never answers which processes the service has. -/
  | listPending {app name : String} {port : Nat} (hrack : target.isRackTarget = true)
      (hpath : target.rackTarget = .ok ⟨app, .service, name, some port⟩)
      (hlist : w.answer s (.list app name) = .pending) :
      Course w s target draws ⟨.pending, [.list app name], 0⟩
  /-- The service has no process. -/
  | empty {app name : String} {port : Nat} (hrack : target.isRackTarget = true)
      (hpath : target.rackTarget = .ok ⟨app, .service, name, some port⟩)
      (hlist : w.answer s (.list app name) = .ok []) :
      Course w s target draws ⟨.error (.noInstances app name), [.list app name], 0⟩
  /-- The rack opens a tunnel to a process of the service. -/
  | tunnelled {app name : String} {port : Nat} {p : Process} {used : Nat} {t : τ}
      (hpicks : w.Picks s target draws app name port p used)
      (htunnel : w.answer (w.after s (.list app name)) (.processTunnel app p.id port) = .ok t) :
      Course w s target draws
        ⟨.ok (.tunnel t), [.list app name, .processTunnel app p.id port], used⟩
  /-- The rack opens no tunnel to the process. -/
  | untunnelled {app name : String} {port : Nat} {p : Process} {used : Nat} {e : RackError}
      (hpicks : w.Picks s target draws app name port p used)
      (htunnel : w.answer (w.after s (.list app name)) (.processTunnel app p.id port) = .error e) :
      Course w s target draws
        ⟨.error (.tunnelFailure e), [.list app name, .processTunnel app p.id port], used⟩
  /-- The rack never answers whether it opens a tunnel to the process. -/
  | tunnelPending {app name : String} {port : Nat} {p : Process} {used : Nat}
      (hpicks : w.Picks s target draws app name port p used)
      (htunnel : w.answer (w.after s (.list app name)) (.processTunnel app p.id port) = .pending) :
      Course w s target draws
        ⟨.pending, [.list app name, .processTunnel app p.id port], used⟩
  /-- The rack opens a tunnel to a resource. -/
  | resource {app name : String} {port : Option Nat} {t : τ} (hrack : target.isRackTarget = true)
      (hpath : target.rackTarget = .ok ⟨app, .resource, name, port⟩)
      (htunnel : w.answer s (.resourceTunnel app name) = .ok t) :
      Course w s target draws ⟨.ok (.tunnel t), [.resourceTunnel app name], 0⟩
  /-- The rack opens no tunnel to the resource. -/
  | noResource {app name : String} {port : Option Nat} {e : RackError}
      (hrack : target.isRackTarget = true)
      (hpath : target.rackTarget = .ok ⟨app, .resource, name, port⟩)
      (htunnel : w.answer s (.resourceTunnel app name) = .error e) :
      Course w s target draws ⟨.error (.tunnelFailure e), [.resourceTunnel app name], 0⟩
  /-- The rack never answers whether it opens a tunnel to the resource. -/
  | resourcePending {app name : String} {port : Option Nat} (hrack : target.isRackTarget = true)
      (hpath : target.rackTarget = .ok ⟨app, .resource, name, port⟩)
      (htunnel : w.answer s (.resourceTunnel app name) = .pending) :
      Course w s target draws ⟨.pending, [.resourceTunnel app name], 0⟩
  /-- A direct target has no host. -/
  | hostless (hdirect : target.isRackTarget = false) (hhost : target.host = none) :
      Course w s target draws ⟨.error (.dialFailure target.text "missing host"), [], 0⟩
  /-- A direct target has no port, and its scheme implies none. -/
  | portless {host : Host} (hdirect : target.isRackTarget = false) (hhost : target.host = some host)
      (hport : target.portOrDefault = none) :
      Course w s target draws ⟨.error (.dialFailure target.text "missing port"), [], 0⟩
  /-- A direct target is dialled and reached. -/
  | dialled {host : Host} {port : Nat} {x : SocketAddress} (hdirect : target.isRackTarget = false)
      (hhost : target.host = some host) (hport : target.portOrDefault = some port)
      (hdial : w.answer s (.dial (host.text ++ ":" ++ toString port)) = .ok x) :
      Course w s target draws
        ⟨.ok (.direct x), [.dial (host.text ++ ":" ++ toString port)], 0⟩
  /-- A direct target is dialled and not reached. -/
  | unreached {host : Host} {port : Nat} {detail : String} (hdirect : target.isRackTarget = false)
      (hhost : target.host = some host) (hport : target.portOrDefault = some port)
      (hdial : w.answer s (.dial (host.text ++ ":" ++ toString port)) = .error detail) :
      Course w s target draws
        ⟨.error (.dialFailure (host.text ++ ":" ++ toString port) detail),
          [.dial (host.text ++ ":" ++ toString port)], 0⟩

variable {w : Surroundings σ τ} {s : σ} {target : Url} {draws : Draws}

/-- An attempt to reach a service asks for a list, and for a tunnel only if it was given one. -/
theorem course_of_toService {app name : String} {port : Nat} (hrack : target.isRackTarget = true)
    (hpath : target.rackTarget = .ok ⟨app, .service, name, some port⟩) :
    w.Course s target draws ((Connecting.toService app name port draws).run w s) := by
  simp only [Connecting.toService, Connecting.run]
  cases hlist : w.answer s (.list app name) with
  | error e => exact .unlisted hrack hpath hlist
  | pending => exact .listPending hrack hpath hlist
  | ok processes =>
    by_cases hempty : processes = []
    · subst hempty
      exact .empty hrack hpath hlist
    · obtain ⟨p, used, hpick, hmem, -⟩ := Selection.exists_pick_eq hempty draws
      have hpicks : w.Picks s target draws app name port p used :=
        ⟨hrack, hpath, processes, hlist, hmem, hpick⟩
      simp only [hpick, Connecting.run]
      cases htunnel : w.answer (w.after s (.list app name)) (.processTunnel app p.id port) with
      | ok t => exact .tunnelled hpicks htunnel
      | error e => exact .untunnelled hpicks htunnel
      | pending => exact .tunnelPending hpicks htunnel

/-- An attempt to reach a resource asks for a tunnel to it. -/
theorem course_of_toResource {app name : String} {port : Option Nat}
    (hrack : target.isRackTarget = true)
    (hpath : target.rackTarget = .ok ⟨app, .resource, name, port⟩) :
    w.Course s target draws
      ((Connecting.toWorkload ⟨app, .resource, name, port⟩ draws).run w s) := by
  simp only [Connecting.toWorkload, Connecting.run]
  cases htunnel : w.answer s (.resourceTunnel app name) with
  | ok t => exact .resource hrack hpath htunnel
  | error e => exact .noResource hrack hpath htunnel
  | pending => exact .resourcePending hrack hpath htunnel

/-- An attempt to reach a direct target dials its host and port, if it has both. -/
theorem course_of_direct (hdirect : target.isRackTarget = false) :
    w.Course s target draws ((Connecting.toTarget target draws).run w s) := by
  simp only [Connecting.toTarget, hdirect, Bool.false_eq_true, if_false, Url.dialAddress]
  cases hhost : target.host with
  | none => exact .hostless hdirect hhost
  | some host =>
    cases hport : target.portOrDefault with
    | none => exact .portless hdirect hhost hport
    | some port =>
      simp only [Connecting.toAddress, Connecting.run]
      cases hdial : w.answer s (.dial (host.text ++ ":" ++ toString port)) with
      | ok x => exact .dialled hdirect hhost hport hdial
      | error detail => exact .unreached hdirect hhost hport hdial

/-- An attempt takes one of the courses. -/
theorem course_of_connect (w : Surroundings σ τ) (s : σ) (target : Url) (draws : Draws) :
    w.Course s target draws (w.connect s target draws) := by
  unfold connect
  cases hrack : target.isRackTarget with
  | false => exact course_of_direct hrack
  | true =>
    simp only [Connecting.toTarget, hrack, if_true]
    cases hpath : target.rackTarget with
    | error e => exact .rejected hrack hpath
    | ok workload =>
      obtain ⟨app, kind, name, port⟩ := workload
      cases kind with
      | service =>
        obtain ⟨port, rfl⟩ := Target.exists_port_of_parse hpath rfl
        exact course_of_toService hrack hpath
      | resource => exact course_of_toResource hrack hpath

/-- An attempt that picks a process comes to what asking for a tunnel to it comes to. -/
theorem Picks.connect_eq {app name : String} {port : Nat} {p : Process} {used : Nat}
    (h : w.Picks s target draws app name port p used) :
    w.connect s target draws =
      ⟨Connecting.ofTunnel (w.answer (w.after s (.list app name)) (.processTunnel app p.id port)),
        [.list app name, .processTunnel app p.id port], used⟩ := by
  obtain ⟨hrack, hpath, processes, hlist, -, hpick⟩ := h
  simp [connect, Connecting.toTarget, hrack, hpath, Connecting.toWorkload, Connecting.toService,
    Connecting.run, hlist, hpick]

/-- An attempt that dials comes to what dialling comes to. -/
theorem connect_of_dialled {host : Host} {port : Nat} (hdirect : target.isRackTarget = false)
    (hhost : target.host = some host) (hport : target.portOrDefault = some port) :
    w.connect s target draws =
      ⟨Connecting.ofDial (host.text ++ ":" ++ toString port)
          (w.answer s (.dial (host.text ++ ":" ++ toString port))),
        [.dial (host.text ++ ":" ++ toString port)], 0⟩ := by
  have haddress : target.dialAddress = .ok (host.text ++ ":" ++ toString port) := by
    simp only [Url.dialAddress, hhost, hport]
  simp only [connect, Connecting.toTarget, hdirect, Bool.false_eq_true, if_false, haddress]
  rfl

/-- The courses exclude each other: whatever course is open to an attempt, it takes that one. -/
theorem Course.eq_connect {x : Resolution τ} (h : w.Course s target draws x) :
    x = w.connect s target draws := by
  cases h with
  | tunnelled hpicks htunnel | untunnelled hpicks htunnel | tunnelPending hpicks htunnel =>
    rw [hpicks.connect_eq, htunnel]
    rfl
  | rejected hrack hpath => simp [connect, Connecting.toTarget, hrack, hpath, Connecting.run]
  | unlisted hrack hpath hlist | listPending hrack hpath hlist | empty hrack hpath hlist =>
    simp [connect, Connecting.toTarget, hrack, hpath, Connecting.toWorkload, Connecting.toService,
      Connecting.run, hlist]
  | resource hrack hpath htunnel | noResource hrack hpath htunnel
  | resourcePending hrack hpath htunnel =>
    simp [connect, Connecting.toTarget, hrack, hpath, Connecting.toWorkload, Connecting.run,
      htunnel, Connecting.ofTunnel]
  | hostless hdirect hhost =>
    simp [connect, Connecting.toTarget, hdirect, Url.dialAddress, hhost, Connecting.run]
  | portless hdirect hhost hport =>
    simp [connect, Connecting.toTarget, hdirect, Url.dialAddress, hhost, hport, Connecting.run]
  | dialled hdirect hhost hport hdial | unreached hdirect hhost hport hdial =>
    rw [connect_of_dialled hdirect hhost hport, hdial]
    rfl

/-- An attempt takes exactly one course. -/
theorem course_iff {x : Resolution τ} :
    w.Course s target draws x ↔ x = w.connect s target draws :=
  ⟨Course.eq_connect, fun h => h ▸ course_of_connect w s target draws⟩

/-! ### One attempt after the other -/

/-- Attempts one after the other, each with what came of it. An attempt has a course of its own,
from the state at its start and with the random words that the attempts before it have left. -/
inductive Session (w : Surroundings σ τ) : Draws → List (σ × Url) → List (Resolution τ) → Prop
  | nil {draws : Draws} : Session w draws [] []
  | cons {draws : Draws} {s : σ} {target : Url} {attempts : List (σ × Url)} {x : Resolution τ}
      {xs : List (Resolution τ)} (hcourse : w.Course s target draws x)
      (hrest : Session w (draws.drop x.drawsUsed) attempts xs) :
      Session w draws ((s, target) :: attempts) (x :: xs)

/-- Connecting to one target after the other, each attempt makes the calls of its own course and no
others. -/
theorem session_iff (w : Surroundings σ τ) (draws : Draws) (attempts : List (σ × Url))
    (xs : List (Resolution τ)) :
    w.Session draws attempts xs ↔ xs = w.connectAll draws attempts := by
  constructor
  · intro h
    induction h with
    | nil => rfl
    | cons hcourse _ ih =>
      subst ih
      rw [hcourse.eq_connect]
      rfl
  · rintro rfl
    induction attempts generalizing draws with
    | nil => exact .nil
    | cons attempt attempts ih =>
      obtain ⟨s, target⟩ := attempt
      exact .cons (course_of_connect w s target draws) (ih _)

/-- A rack that lists one process whenever it is asked, opens a tunnel to it at the second call and
at no other, and never answers for resources. The network refuses all connections. -/
def dwindling : Surroundings Nat Unit where
  answer
    | _, .list .. => .ok [⟨"p1", "app", "web"⟩]
    | 1, .processTunnel .. => .ok ()
    | _, .processTunnel .. => .error (.notFound "process app/p1")
    | _, .resourceTunnel .. => .pending
    | _, .dial _ => .error "Connection refused (os error 111)"
  after n _ := n + 1

/-- A service of the rack as a target. -/
def webTarget : Url :=
  ⟨"http", some ⟨"", none, some (.name "rack"), none⟩, "/app/service/web:80", none, none⟩

/-- Of two attempts the first one is given a tunnel and the second one is not. Each asks for a list
of its own. -/
theorem session_of_dwindling :
    dwindling.Session (fun _ => 0) [(0, webTarget), (2, webTarget)]
      [⟨.ok (.tunnel ()), [.list "app" "web", .processTunnel "app" "p1" 80], 1⟩,
        ⟨.error (.tunnelFailure (.notFound "process app/p1")),
          [.list "app" "web", .processTunnel "app" "p1" 80], 1⟩] :=
  (session_iff dwindling (fun _ => 0) [(0, webTarget), (2, webTarget)] _).2 (by rfl)

end Surroundings

end Gatehouse
