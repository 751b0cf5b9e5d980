import Blotter.Settings.Codec
import Blotter.Settings.Environment
import Blotter.Settings.Validation
import Blotter.Yaml.Document

/-!
# Loading settings

Settings are written in YAML and may refer to variables of the environment. They are read, given their defaults and
checked against what is on the disk.
-/

namespace Blotter.Config

/-- The file with the settings, unless another one is named. -/
def defaultPath : String := "config.yaml"

/-- Reads settings from a text. -/
def parse (env : Environment) (disk : Disk) (text : String) : Except ConfigError Config := do
  let config ← match Yaml.parse (env.interpolate text) >>= ofDocument? with
    | some config => .ok config
    | none => .error .parse
  config.validate disk
  return config

/-- Reads settings from a file. -/
def load (env : Environment) (disk : Disk) (path : Option String) : Except ConfigError Config :=
  let path := path.getD defaultPath
  match disk.readText path with
  | .ok text => parse env disk text
  | .error cause => .error (.read path cause)

end Blotter.Config
