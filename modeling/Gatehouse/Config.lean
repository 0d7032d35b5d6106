import Gatehouse.Text.Numeral

/-!
# Configuration from the environment

The router reads its settings from environment variables. Only `ROUTER_CONFIG` must be set. The
three numeric variables must be numerals of 64-bit words when they are set, and the first one
that is none, in a fixed order, is the error.

## Main definitions

* `Environment` : the value of each variable that is set to text.
* `Config`, `ProxySettings` : the settings.
* `ConfigError` : a variable that is missing or no number.
* `Config.ofEnvironment` : the settings that an environment gives.
-/

namespace Gatehouse

/-- The value of each environment variable that is set to text. -/
abbrev Environment := String → Option String

/-- The settings shared by all proxies. Times are in milliseconds. -/
structure ProxySettings where
  /-- How many connections a listener serves at the same time. -/
  maxConnections : Nat
  /-- How long opening a direct connection may take. -/
  connectTimeout : Nat
  /-- How long a read may be pending before the connection counts as idle, if that is limited. -/
  idleTimeout : Option Nat
  deriving DecidableEq, Repr

/-- The connections that a listener serves when nothing else is set. -/
def defaultMaxConnections : Nat := 10000

/-- The time for a direct connection when nothing else is set. -/
def defaultConnectTimeout : Nat := 2000

/-- The settings used when nothing is set. -/
def ProxySettings.standard : ProxySettings :=
  ⟨defaultMaxConnections, defaultConnectTimeout, none⟩

/-- The settings of the whole process. -/
structure Config where
  endpointsFile : String
  rackFile : Option String
  logLevel : String
  maxConnections : Nat
  connectTimeout : Nat
  idleTimeout : Option Nat
  deriving DecidableEq, Repr

/-- The settings that can be no number. -/
inductive NumericSetting where
  | maxConnections
  | connectTimeout
  | idleTimeout
  deriving DecidableEq, Repr

namespace NumericSetting

/-- The variable that holds the setting. -/
def variableName : NumericSetting → String
  | .maxConnections => "ROUTER_MAX_CONNECTIONS"
  | .connectTimeout => "ROUTER_CONNECT_TIMEOUT_MS"
  | .idleTimeout => "ROUTER_IDLE_TIMEOUT_MS"

/-- What is asked of the value of the variable. -/
def requirement : NumericSetting → String
  | .maxConnections => "ROUTER_MAX_CONNECTIONS must be an integer."
  | .connectTimeout => "ROUTER_CONNECT_TIMEOUT_MS must be an integer (milliseconds)."
  | .idleTimeout => "ROUTER_IDLE_TIMEOUT_MS must be an integer (milliseconds)."

end NumericSetting

/-- Why an environment gives no configuration. -/
inductive ConfigError where
  /-- No endpoints file is named. -/
  | missingEndpointsFile
  /-- The value of a setting is no number. -/
  | notANumber (setting : NumericSetting) (fault : Numeral.Fault)
  deriving DecidableEq, Repr

/-- The wordings of the error, from the outermost cause to the innermost. -/
def ConfigError.chain : ConfigError → List String
  | .missingEndpointsFile => ["Missing endpoints file. Set ROUTER_CONFIG."]
  | .notANumber setting fault => [setting.requirement, fault.message]

namespace Config

/-- The number that a setting is set to, if its variable is set. -/
def number (env : Environment) (setting : NumericSetting) : Except ConfigError (Option Nat) :=
  match env setting.variableName with
  | none => .ok none
  | some value =>
    match Numeral.readWord value.toList with
    | .ok n => .ok (some n)
    | .error fault => .error (.notANumber setting fault)

/-- The configuration that an environment gives. -/
def ofEnvironment (env : Environment) : Except ConfigError Config :=
  match env "ROUTER_CONFIG" with
  | none => .error .missingEndpointsFile
  | some endpointsFile => do
    let connections ← number env .maxConnections
    let connect ← number env .connectTimeout
    let idle ← number env .idleTimeout
    return {
      endpointsFile
      rackFile := env "ROUTER_RACK_FILE"
      logLevel := (env "ROUTER_LOG_LEVEL").getD "info"
      maxConnections := max 1 (connections.getD defaultMaxConnections)
      connectTimeout := max 50 (connect.getD defaultConnectTimeout)
      idleTimeout := idle }

/-- The part of the configuration that every proxy uses. -/
def proxySettings (config : Config) : ProxySettings :=
  ⟨config.maxConnections, config.connectTimeout, config.idleTimeout⟩

end Config

end Gatehouse
