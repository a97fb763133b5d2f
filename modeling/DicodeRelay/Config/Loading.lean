import DicodeRelay.Config.Interpolation
import DicodeRelay.Config.Settings

/-!
Contract: how a relay comes to its configuration.

Owns:
- loading a configuration file, and the configuration a start goes on with;
- that a configuration once accepted is accepted again as it is.

Does not own: what YAML text means.
-/

namespace DicodeRelay.Config

open DicodeRelay.Lib

/-! ### Loading -/

/-- The files and the YAML library. -/
structure ConfigTools where
  /-- What is at a path: its text, if it can be read. -/
  files : String → Option (Option String)
  /-- `load(text)`: it may throw, and it may find no document. -/
  yamlLoad : String → Option (Option Datum)

inductive ConfigError where
  | bothGiven
  | notFound (path : String)
  | readFailed (path : String)
  | badYaml
  | invalid (issues : List Issue)

/-- The texts of the errors that are not a library's. -/
def ConfigError.message : ConfigError → Option String
  | bothGiven => some "startServer: pass either `configPath` or `config`, not both"
  | notFound path =>
      some ("Config file not found: " ++ path ++ "\n" ++
        "Copy relay.yaml.example to relay.yaml and configure it for your environment.")
  | _ => none

end DicodeRelay.Config
