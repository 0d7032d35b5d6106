import Gatehouse.Listener.Binding
import Gatehouse.Rack.Description
import Gatehouse.Startup.LogFilter

/-!
# Starting the router

The router reads its configuration, the description of the rack and the endpoints file, registers
what the file lists, and serves all proxies until one of them stops or the router is interrupted.
The first thing that goes wrong ends it with an error report. Without any proxy it ends at once.

Nothing is logged before the configuration has been read, because it says what is to be logged.

## Main definitions

* `Premises` : what a run depends on.
* `errorReport` : an error with its causes as it is shown.
* `Run` : the log lines and the error of a run.
* `Startup.run` : the run on some premises.
-/

namespace Gatehouse

/-- What a run depends on. -/
structure Premises where
  env : Environment
  /-- What reading a file gives. -/
  file : String → Except IoError String
  sockets : Sockets

/-- How a run ends. -/
inductive RunEnd where
  /-- An error, with its wordings from the outermost cause to the innermost. -/
  | failed (chain : List String)
  /-- There was nothing to serve. -/
  | finished
  /-- All proxies accept connections until the router is interrupted. -/
  | serving
  deriving DecidableEq, Repr

/-- A run: the lines that are logged, shown or not, the filter that shows them, and the end. -/
structure Run where
  filter : LogFilter
  /-- The parts of the configured filter that are no directives, with the reasons. -/
  ignored : List (String × LogDirective.Fault)
  lines : List LogLine
  ending : RunEnd

/-! ### Error reports -/

/-- The lines of a text, the first behind one margin and the others behind another. -/
def indented (first others text : String) : String :=
  first ++ ("\n" ++ others).intercalate (text.splitOn "\n")

/-- The causes with their numbers, from a number on. -/
def numberedCauses (n : Nat) : List String → List String
  | [] => []
  | c :: rest =>
    let number := toString n
    let margin := String.ofList (List.replicate (5 - number.length) ' ')
    indented (margin ++ number ++ ": ") "       " c :: numberedCauses (n + 1) rest

/-- The causes as they are shown: numbered if there are several. -/
def causeLines : List String → List String
  | [c] => [indented "    " "    " c]
  | causes => numberedCauses 0 causes

/-- An error with its causes as it is shown. -/
def errorReport : List String → String
  | [] => ""
  | [top] => "Error: " ++ top ++ "\n"
  | top :: causes =>
    "Error: " ++ top ++ "\n\nCaused by:\n" ++ "\n".intercalate (causeLines causes) ++ "\n"

/-- The chain of wordings of an error. -/
def RouterError.chain (e : RouterError) : List String := e.message :: e.source.toList

/-! ### Log lines -/

namespace LogLine

/-- A line of the program itself. -/
def ofMain (level : LogLevel) (message : String) : LogLine := ⟨level, "router", message⟩

/-- A line about the registry. -/
def ofRegistry (level : LogLevel) (message : String) : LogLine :=
  ⟨level, "rackgate_router::router", message⟩

/-- A line about an endpoint. -/
def ofEndpoint (level : LogLevel) (message : String) : LogLine :=
  ⟨level, "rackgate_router::proxy::endpoint", message⟩

/-- A line about a listener. -/
def ofListener (level : LogLevel) (message : String) : LogLine :=
  ⟨level, "rackgate_router::proxy::listener", message⟩

/-- A line about certificates. -/
def ofCertificates (level : LogLevel) (message : String) : LogLine :=
  ⟨level, "rackgate_router::tls", message⟩

end LogLine

/-- What is logged when something has been registered. -/
def Registered.line : Registered → LogLine
  | .endpoint _ => .ofRegistry .info "Endpoint created"
  | .proxy .. => .ofEndpoint .info "Proxy created"

/-- Whether a proxy needs a certificate and no earlier one of its host does. -/
def asksFirst (earlier : List (String × Proxy)) (host : String) (p : Proxy) : Bool :=
  p.scheme.offeredProtocols.isSome &&
    !earlier.any fun (h, q) => h == host && q.scheme.offeredProtocols.isSome

namespace Startup

/-- What is logged when a proxy has been bound. -/
def boundLines (isFirst : Bool) : List LogLine :=
  (if isFirst then [.ofEndpoint .debug "Issued certificate"] else []) ++
    [.ofListener .info "Proxy bound", .ofListener .info "Proxy serving"]

/-- What is logged while proxies are bound, up to the first that fails. -/
def servingLines (earlier : List (String × Proxy)) :
    List (String × Proxy) → List BindOutcome → List LogLine
  | (host, p) :: rest, .bound _ :: outcomes =>
    boundLines (asksFirst earlier host p) ++ servingLines ((host, p) :: earlier) rest outcomes
  | (host, p) :: _, .failed (.target _) :: _ =>
    if asksFirst earlier host p then [.ofEndpoint .debug "Issued certificate"] else []
  | _, _ => []

/-- What is logged when serving has ended, and how the run ends. -/
def servingEnd : Router.ServeOutcome → List LogLine × RunEnd
  | .nothing => ([.ofRegistry .info "No proxies configured"], .finished)
  | .running => ([], .serving)
  | .stopped cause =>
    ([.ofRegistry .error "Proxy stopped", .ofMain .error "Router stopped"], .failed cause.chain)
  | .broken =>
    let cause := RouterError.io ⟨.other, "task panicked"⟩
    ([.ofMain .error "Router stopped"], .failed cause.chain)

/-- Serving a router. -/
def serve (r : Router) (sockets : Sockets) : List LogLine × RunEnd :=
  let (outcome, outcomes, _, _) := r.serve (Issuer.local localAuthorityName) sockets
  let (lines, ending) := servingEnd outcome
  (servingLines [] r.proxies outcomes ++ lines, ending)

/-- The description of the rack that is configured, or the one without apps. -/
def loadRack (premises : Premises) (config : Config) : Except (List String) LocalRack :=
  match config.rackFile with
  | none => .ok .empty
  | some path =>
    match LocalRack.ofFile path (premises.file path) with
    | .ok rack => .ok rack
    | .error e => .error [("Failed to load rack description " ++ path), e.message]

/-- What is logged behind the configuration, and how the run ends. -/
def proceed (premises : Premises) (config : Config) : List LogLine × RunEnd :=
  match loadRack premises config with
  | .error chain => ([], .failed chain)
  | .ok _ =>
    let authority := LogLine.ofCertificates .info "Generated local certificate authority"
    match EndpointsFile.ofFile config.endpointsFile (premises.file config.endpointsFile) with
    | .error e => ([authority], .failed e.chain)
    | .ok file =>
      let registration := (Router.create config.proxySettings).register file
      let lines := authority :: registration.done.map Registered.line
      match registration.result with
      | .error e => (lines, .failed e.chain)
      | .ok r =>
        let (serving, ending) := serve r premises.sockets
        (lines ++ serving, ending)

/-- The filter of an environment: the general variable goes before the router's own, if it
consists of directives. -/
def logFilter (env : Environment) (config : Config) :
    LogFilter × List (String × LogDirective.Fault) :=
  match (env "RUST_LOG").bind LogFilter.strict? with
  | some f => (f, [])
  | none => (LogFilter.lenient config.logLevel, LogFilter.ignored config.logLevel)

/-- The run on some premises. -/
def run (premises : Premises) : Run :=
  match Config.ofEnvironment premises.env with
  | .error e => ⟨[], [], [], .failed e.chain⟩
  | .ok config =>
    let (filter, ignored) := logFilter premises.env config
    let (lines, ending) := proceed premises config
    ⟨filter, ignored, [.ofMain .info "Starting rackgate router",
      .ofMain .info "Configuration loaded"] ++ lines, ending⟩

end Startup

namespace Run

/-- What is logged when the router is interrupted. -/
def interruptLine : LogLine := .ofMain .info "Shutdown signal received"

/-- The lines that are shown, when a router that serves is interrupted in the end. -/
def shown (r : Run) : List LogLine :=
  let lines := if r.ending = .serving then r.lines ++ [interruptLine] else r.lines
  lines.filter r.filter.shows

/-- What is written to the error stream. -/
def report (r : Run) : String :=
  String.join (r.ignored.map fun (s, fault) =>
      "ignoring `" ++ s ++ "`: " ++ fault.message ++ "\n") ++
    match r.ending with
    | .failed chain => errorReport chain
    | _ => ""

/-- The exit code. -/
def exitCode (r : Run) : Nat :=
  match r.ending with
  | .failed _ => 1
  | _ => 0

end Run

end Gatehouse
