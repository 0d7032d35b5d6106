import Gatehouse.Json.Writer
import Gatehouse.Startup.Run

/-!
# The program

Collects what a run depends on, and writes what it leaves behind: the log lines to the standard
output, one JSON object each, and the error report to the error stream. The host has no network;
a router that serves is taken to be interrupted.
-/

namespace Gatehouse.Program

/-- The names of the variables that a run looks at. -/
def variableNames : List String :=
  ["ROUTER_CONFIG", "ROUTER_RACK_FILE", "ROUTER_LOG_LEVEL", "ROUTER_MAX_CONNECTIONS",
    "ROUTER_CONNECT_TIMEOUT_MS", "ROUTER_IDLE_TIMEOUT_MS", "RUST_LOG"]

/-- The values of the variables that are set. -/
def environment : IO Environment := do
  let mut values : List (String × String) := []
  for name in variableNames do
    if let some value ← IO.getEnv name then values := (name, value) :: values
  let found := values
  return fun name => found.lookup name

/-- What reading a file gives. -/
def content (path : String) : IO (Except IoError String) := do
  try
    let bytes ← IO.FS.readBinFile path
    return match Bytes.toText? bytes.toList with
      | some text => .ok text
      | none => .error .notUtf8
  catch e =>
    return match e with
      | .noFileOrDirectory .. => .error .noSuchFile
      | .inappropriateType .. => .error .isDirectory
      | e => .error ⟨.other, toString e⟩

/-- A log line as it is written. -/
def line (l : LogLine) : String :=
  (Json.Tree.object [("level", .string l.level.name),
    ("fields", .object [("message", .string l.message)]),
    ("target", .string l.component)]).compact

/-- Runs the router and answers its exit code. -/
def run : IO UInt32 := do
  let env ← environment
  let mut files : List (String × Except IoError String) := []
  for name in ["ROUTER_CONFIG", "ROUTER_RACK_FILE"] do
    if let some path := env name then files := (path, ← content path) :: files
  let read := files
  let r := Startup.run
    ⟨env, fun path => (read.lookup path).getD (.error .noSuchFile), Sockets.isolated⟩
  for l in r.shown do IO.println (line l)
  IO.eprint r.report
  return UInt32.ofNat r.exitCode

end Gatehouse.Program

/-- Runs the router. -/
def main : IO UInt32 := Gatehouse.Program.run
