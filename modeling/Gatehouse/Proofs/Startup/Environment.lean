import Gatehouse.Config
import Gatehouse.Proofs.Text.Numerals

/-!
# The configurations of environments

An environment gives a configuration just if it names an endpoints file and each numeric variable
that is set is the numeral of a word. A number that is too small is raised to the least one that is
of use, and a time without bound stays one. An environment that gives no configuration is rejected
for its first offence: variables are looked at in a fixed order, and the value of one from left to
right.

## Main definitions

* `Environment.Gives`: the number that a variable is set to, if it is set.
* `Environment.IsComplete`: nothing is missing, and every number is one.
* `Environment.FirstOffence`: what is wrong with an environment at first.
* `Config.ofGiven`: the configuration with given numbers.

## Main results

* `Config.ofEnvironment_of_gives`, `Config.ofEnvironment_of_firstOffence`: what comes of an
  environment.
* `Config.gives_or_firstOffence`: every environment is in order or has a first offence.
* `Config.config_of_environment`: which environments give which configurations and errors.
-/

namespace Gatehouse

/-- The settings that are looked at before a setting, in order. -/
def NumericSetting.earlier : NumericSetting → List NumericSetting
  | .maxConnections => []
  | .connectTimeout => [.maxConnections]
  | .idleTimeout => [.maxConnections, .connectTimeout]

namespace Environment

/-- The number that the variable of a setting is set to, below 2^64, or none if it is not set. -/
def Gives (env : Environment) (setting : NumericSetting) (given : Option Nat) : Prop :=
  match env setting.variableName with
  | none => given = none
  | some value => ∃ n < Nat.pow 2 64, Numeral.Denotes value.toList n ∧ given = some n

/-- The endpoints file is named, and each numeric variable that is set is the numeral of a
word. -/
structure IsComplete (env : Environment) : Prop where
  file : env "ROUTER_CONFIG" ≠ none
  word : ∀ setting value, env (NumericSetting.variableName setting) = some value →
    ∃ n < Nat.pow 2 64, Numeral.Denotes value.toList n

/-- What is wrong with an environment at first: no endpoints file is named, or one is, and the value
of a setting is no numeral of a word while those of the earlier settings are. -/
inductive FirstOffence (env : Environment) : ConfigError → Prop
  | missing (hfile : env "ROUTER_CONFIG" = none) : FirstOffence env .missingEndpointsFile
  | notANumber {setting : NumericSetting} {value : String} {fault : Numeral.Fault}
      (hfile : env "ROUTER_CONFIG" ≠ none)
      (hearlier : ∀ s ∈ setting.earlier, ∃ given, Gives env s given)
      (hvalue : env setting.variableName = some value)
      (hfault : Numeral.FirstFault (Nat.pow 2 64) value.toList fault) :
      FirstOffence env (.notANumber setting fault)

end Environment

namespace Config

open Environment (Gives FirstOffence)

variable {env : Environment} {setting : NumericSetting}

/-! ### Numbers -/

theorem number_of_gives {given : Option Nat} (h : Gives env setting given) :
    number env setting = .ok given := by
  unfold Gives at h
  rw [number]
  cases hvalue : env setting.variableName with
  | none =>
    rw [hvalue] at h
    exact congrArg Except.ok h.symm
  | some value =>
    rw [hvalue] at h
    obtain ⟨n, hlt, hdenotes, rfl⟩ := h
    have hread : Numeral.readWord value.toList = .ok n :=
      Numeral.read_eq_ok_iff.2 ⟨hdenotes, hlt⟩
    simp only [hread]

theorem number_of_firstFault {value : String} {fault : Numeral.Fault}
    (hvalue : env setting.variableName = some value)
    (hfault : Numeral.FirstFault (Nat.pow 2 64) value.toList fault) :
    number env setting = .error (.notANumber setting fault) := by
  have hread : Numeral.readWord value.toList = .error fault :=
    (Numeral.read_eq_error_iff (by decide)).2 hfault
  rw [number, hvalue]
  simp only [hread]

/-- A setting is given or not, or something is wrong with its value. -/
theorem gives_or_firstFault (env : Environment) (setting : NumericSetting) :
    (∃ given, Gives env setting given) ∨ ∃ value fault, env setting.variableName = some value ∧
      Numeral.FirstFault (Nat.pow 2 64) value.toList fault := by
  cases hvalue : env setting.variableName with
  | none => exact .inl ⟨none, by simp [Gives, hvalue]⟩
  | some value =>
    cases hread : Numeral.read (Nat.pow 2 64) value.toList with
    | ok n =>
      obtain ⟨hdenotes, hlt⟩ := Numeral.read_eq_ok_iff.1 hread
      refine .inl ⟨some n, ?_⟩
      rw [Gives, hvalue]
      exact ⟨n, hlt, hdenotes, rfl⟩
    | error fault =>
      exact .inr ⟨value, fault, rfl, (Numeral.read_eq_error_iff (by decide)).1 hread⟩

/-! ### Whole configurations -/

/-- The configuration with the given numbers. A listener serves at least one connection, and a
direct connection has at least 50 milliseconds to be opened. -/
def ofGiven (env : Environment) (endpointsFile : String)
    (given : NumericSetting → Option Nat) : Config where
  endpointsFile := endpointsFile
  rackFile := env "ROUTER_RACK_FILE"
  logLevel := (env "ROUTER_LOG_LEVEL").getD "info"
  maxConnections := max 1 ((given .maxConnections).getD 10000)
  connectTimeout := max 50 ((given .connectTimeout).getD 2000)
  idleTimeout := given .idleTimeout

theorem ofEnvironment_of_gives {file : String} {given : NumericSetting → Option Nat}
    (hfile : env "ROUTER_CONFIG" = some file) (hgiven : ∀ s, Gives env s (given s)) :
    ofEnvironment env = .ok (ofGiven env file given) := by
  simp only [ofEnvironment, hfile, number_of_gives (hgiven _)]
  rfl

theorem ofEnvironment_of_firstOffence {e : ConfigError} (h : FirstOffence env e) :
    ofEnvironment env = .error e := by
  cases h with
  | missing hfile => simp only [ofEnvironment, hfile]
  | @notANumber setting value fault hfile hearlier hvalue hfault =>
    obtain ⟨file, hfile⟩ := Option.ne_none_iff_exists'.1 hfile
    have hnumber := number_of_firstFault hvalue hfault
    have hread {s : NumericSetting} (hs : s ∈ setting.earlier) :
        ∃ given, number env s = .ok given := (hearlier s hs).imp fun _ => number_of_gives
    simp only [ofEnvironment, hfile]
    cases setting with
    | maxConnections =>
      rw [hnumber]
      rfl
    | connectTimeout =>
      obtain ⟨connections, hconnections⟩ := hread (s := .maxConnections) (.head _)
      rw [hconnections, hnumber]
      rfl
    | idleTimeout =>
      obtain ⟨connections, hconnections⟩ := hread (s := .maxConnections) (.head _)
      obtain ⟨connect, hconnect⟩ := hread (s := .connectTimeout) (.tail _ (.head _))
      rw [hconnections, hconnect, hnumber]
      rfl

/-- Every environment gives all numbers, or something is wrong with it at first. -/
theorem gives_or_firstOffence (env : Environment) :
    (∃ (file : String) (given : NumericSetting → Option Nat),
      env "ROUTER_CONFIG" = some file ∧ ∀ s, Gives env s (given s)) ∨ ∃ e, FirstOffence env e := by
  cases hfile : env "ROUTER_CONFIG" with
  | none => exact .inr ⟨_, .missing hfile⟩
  | some file =>
    have hsome : env "ROUTER_CONFIG" ≠ none := hfile ▸ Option.some_ne_none file
    rcases gives_or_firstFault env .maxConnections with ⟨connections, hconnections⟩ |
      ⟨value, fault, hvalue, hfault⟩
    · rcases gives_or_firstFault env .connectTimeout with ⟨connect, hconnect⟩ |
        ⟨value, fault, hvalue, hfault⟩
      · rcases gives_or_firstFault env .idleTimeout with ⟨idle, hidle⟩ |
          ⟨value, fault, hvalue, hfault⟩
        · let given : NumericSetting → Option Nat
            | .maxConnections => connections
            | .connectTimeout => connect
            | .idleTimeout => idle
          refine .inl ⟨file, given, rfl, fun s => ?_⟩
          cases s with
          | maxConnections => exact hconnections
          | connectTimeout => exact hconnect
          | idleTimeout => exact hidle
        · refine .inr ⟨_, .notANumber hsome (fun s hs => ?_) hvalue hfault⟩
          rcases List.mem_pair.1 hs with rfl | rfl
          · exact ⟨_, hconnections⟩
          · exact ⟨_, hconnect⟩
      · refine .inr ⟨_, .notANumber hsome (fun s hs => ?_) hvalue hfault⟩
        obtain rfl := List.mem_singleton.1 hs
        exact ⟨_, hconnections⟩
    · exact .inr ⟨_, .notANumber hsome (List.forall_mem_nil _) hvalue hfault⟩

theorem ofEnvironment_eq_ok_iff {config : Config} :
    ofEnvironment env = .ok config ↔
      ∃ (file : String) (given : NumericSetting → Option Nat), env "ROUTER_CONFIG" = some file ∧
        (∀ s, Gives env s (given s)) ∧ config = ofGiven env file given := by
  constructor
  · intro h
    rcases gives_or_firstOffence env with ⟨file, given, hfile, hgiven⟩ | ⟨e, hoffence⟩
    · rw [ofEnvironment_of_gives hfile hgiven] at h
      exact ⟨file, given, hfile, hgiven, (Except.ok.inj h).symm⟩
    · rw [ofEnvironment_of_firstOffence hoffence] at h
      cases h
  · rintro ⟨file, given, hfile, hgiven, rfl⟩
    exact ofEnvironment_of_gives hfile hgiven

theorem ofEnvironment_eq_error_iff {e : ConfigError} :
    ofEnvironment env = .error e ↔ FirstOffence env e := by
  refine ⟨fun h => ?_, ofEnvironment_of_firstOffence⟩
  rcases gives_or_firstOffence env with ⟨file, given, hfile, hgiven⟩ | ⟨e', hoffence⟩
  · rw [ofEnvironment_of_gives hfile hgiven] at h
    cases h
  · rw [ofEnvironment_of_firstOffence hoffence] at h
    exact Except.error.inj h ▸ hoffence

/-- All settings are given just if each that is set is the numeral of a word. -/
theorem exists_gives_iff :
    (∃ given : NumericSetting → Option Nat, ∀ s, Gives env s (given s)) ↔
      ∀ s value, env (NumericSetting.variableName s) = some value →
        ∃ n < Nat.pow 2 64, Numeral.Denotes value.toList n := by
  have hone (s : NumericSetting) : (∃ given, Gives env s given) ↔
      ∀ value, env s.variableName = some value →
        ∃ n < Nat.pow 2 64, Numeral.Denotes value.toList n := by
    unfold Gives
    cases env s.variableName with
    | none => simp
    | some value => simp [exists_comm (α := Option Nat)]
  rw [← forall_congr' hone]
  exact Classical.skolem.symm

/-! ### Wordings -/

/-- What is asked of a setting tells the setting. -/
theorem requirement_injective : Function.Injective NumericSetting.requirement := by
  intro s s' h
  cases s <;> cases s' <;> first | rfl | exact absurd h (by decide)

/-- The wording of a fault tells the fault. -/
theorem message_injective : Function.Injective Numeral.Fault.message := by
  intro fault fault' h
  cases fault <;> cases fault' <;> first | rfl | exact absurd h (by decide)

/-! ### Environments and configurations -/

/-- Which environments give which configurations and errors, for every environment.

An environment gives a configuration just if it is complete, and then the one with the numbers that
its variables are set to. What the proxies use of it are its three numbers. Any other environment
is rejected for its first offence, and of the two wordings of a number that is none, the outer one
tells the setting and the inner one what is wrong with its value. -/
theorem config_of_environment (env : Environment) :
    ((∃ config, ofEnvironment env = .ok config) ↔ env.IsComplete) ∧
    (∀ config, ofEnvironment env = .ok config →
      ∃ given : NumericSetting → Option Nat, (∀ s, env.Gives s (given s)) ∧
        env "ROUTER_CONFIG" = some config.endpointsFile ∧
        config.rackFile = env "ROUTER_RACK_FILE" ∧
        config.logLevel = (env "ROUTER_LOG_LEVEL").getD "info" ∧
        config.maxConnections = max 1 ((given .maxConnections).getD 10000) ∧
        config.connectTimeout = max 50 ((given .connectTimeout).getD 2000) ∧
        config.idleTimeout = given .idleTimeout ∧
        config.proxySettings =
          ⟨config.maxConnections, config.connectTimeout, config.idleTimeout⟩) ∧
    (∀ e, ofEnvironment env = .error e ↔ env.FirstOffence e) ∧
    (∀ setting fault, (ConfigError.notANumber setting fault).chain =
      [setting.requirement, fault.message]) ∧
    Function.Injective NumericSetting.requirement ∧ Function.Injective Numeral.Fault.message := by
  refine ⟨?_, fun config h => ?_, fun e => ofEnvironment_eq_error_iff, fun _ _ => rfl,
    requirement_injective, message_injective⟩
  · constructor
    · rintro ⟨config, h⟩
      obtain ⟨file, given, hfile, hgiven, -⟩ := ofEnvironment_eq_ok_iff.1 h
      exact ⟨hfile ▸ Option.some_ne_none file, exists_gives_iff.1 ⟨given, hgiven⟩⟩
    · rintro ⟨hfile, hword⟩
      obtain ⟨file, hfile⟩ := Option.ne_none_iff_exists'.1 hfile
      obtain ⟨given, hgiven⟩ := exists_gives_iff.2 hword
      exact ⟨_, ofEnvironment_of_gives hfile hgiven⟩
  · obtain ⟨file, given, hfile, hgiven, rfl⟩ := ofEnvironment_eq_ok_iff.1 h
    exact ⟨given, hgiven, hfile, rfl, rfl, rfl, rfl, rfl, rfl⟩

end Config

end Gatehouse
