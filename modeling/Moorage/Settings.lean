import Moorage.Duration
import Moorage.Naming
import Moorage.Text.Digits

/-!
# `Moorage.Settings`: the settings shared by every provider

* `Settings.ofHome`, `Settings.ofEnvironment`: the defaults below a home
  directory, and what environment variables change in them.
* `Settings.engineHost?`: the host of a remote container engine.
-/

set_option autoImplicit false

namespace Moorage

/-- The settings of a run. -/
structure Settings where
  homeDir : String
  cacheDir : String
  wanNetwork : Option String
  wanSubnet : String
  forcePull : Bool
  startTimeout : Duration
  pollInterval : Duration
  engineAddress : Option String
  deriving DecidableEq, Repr

/-- The values of environment variables; a variable that is not set has none. -/
abbrev Environment := String → Option String

namespace Settings

/-- The default settings below a home directory. -/
def ofHome (home : String) : Settings where
  homeDir := home
  cacheDir := Path.join home "config"
  wanNetwork := some "wan"
  wanSubnet := "192.168.200.0/24"
  forcePull := false
  startTimeout := .ofSecs 120
  pollInterval := .ofSecs 1
  engineAddress := none

/-- The same settings below another home directory. -/
def rehomed (s : Settings) (home : String) : Settings :=
  { s with homeDir := home, cacheDir := Path.join home "config" }

/-- The home directory when none is named: a hidden directory of the user, or of
the working directory for want of one. -/
def defaultHome (env : Environment) : String :=
  Path.join ((env "HOME" <|> env "USERPROFILE").getD ".") ".berth"

/-- The start timeout that a variable's value writes, in seconds of 64 bits. -/
def timeout? (value : String) : Option Duration :=
  (Text.unsigned? (Nat.pow 2 64 - 1) value.toList).map Duration.ofSecs

/-- The settings that the environment variables ask for. A value that does not
parse changes nothing. -/
def ofEnvironment (env : Environment) : Settings :=
  let base := ofHome ((env "BERTH_HOME").getD (defaultHome env))
  { base with
    engineAddress := (env "DOCKER_HOST").filter (· ≠ "")
    startTimeout := ((env "BERTH_START_TIMEOUT").bind timeout?).getD base.startTimeout
    forcePull := (env "BERTH_FORCE_PULL").any (["1", "true", "yes"].contains ·) }

/-- The host part of what follows the scheme of an engine address: everything
before the first slash, without a port of decimal digits at its end. -/
def hostOf (rest : List Char) : List Char :=
  let authority := Text.upTo '/' rest
  match Text.cutLast ':' authority with
  | some (host, port) => if port.all Char.isDigit then host else authority
  | none => authority

/-- The host of an engine address. Only TCP engines are remote. -/
def remoteHost? (address : String) : Option String :=
  match Text.dropLead? "tcp://".toList address.toList with
  | none => none
  | some rest =>
      let host := hostOf rest
      if host.isEmpty then none else some (String.ofList host)

/-- The host of the remote container engine, if the engine is remote. -/
def engineHost? (s : Settings) : Option String := s.engineAddress.bind remoteHost?

/-- The host under which published ports are reached. -/
def publishedHost (s : Settings) : String := s.engineHost?.getD "127.0.0.1"

end Settings

end Moorage
