import Courier.Config.Reading
import Courier.Toml.Reader
import Courier.Toml.Writer

/-!
# Engine settings in TOML

The settings of an engine are kept in TOML documents. Settings that are read are also
checked; settings that are written need not have been.
-/

namespace Courier.EngineConfig

/-- Reads settings and checks them. -/
def ofToml (text : String) : Except NetworkError EngineConfig := do
  let refuse (reason : String) : Except NetworkError EngineConfig :=
    throw (.configuration s!"invalid engine config: {reason}" none)
  match Toml.read text with
  | .error fault => refuse fault.message
  | .ok document =>
    match ofDocument? Toml.settingsRules document with
    | none => refuse "a setting has the wrong type"
    | some config =>
      config.validate
      return config

/-- Writes settings, if all of them have a written form. -/
def toToml (c : EngineConfig) : Except NetworkError String :=
  match Toml.write? c.toDocument with
  | some text => .ok text
  | none =>
    .error (.configuration "cannot encode engine config: a number is out of range" none)

end Courier.EngineConfig
