import Contracts.File.Basic
import Contracts.Settings.Basic
import Contracts.Settings.Variable
import Contracts.Toml.Reader

/-!
# Layers of settings

Settings come in layers: the defaults, a file, variables, and the command line. Tables of two
layers are merged, and of anything else the upper layer's counts. Only the result has to be of
the right form, so a layer may repair another one.
-/

namespace Contracts

namespace Json

/-- Replace the value of a name, or add it at the end. -/
def putMember (name : String) (value : Json) : List (String × Json) → List (String × Json)
  | [] => [(name, value)]
  | (n, v) :: rest => if n = name then (n, value) :: rest else (n, v) :: putMember name value rest

mutual

/-- Lay a document over another one. -/
def overlay (below : Json) : Json → Json
  | .object members =>
    match below with
    | .object others => .object (overlayMembers others members)
    | _ => .object members
  | above => above

/-- Lay members over others. -/
def overlayMembers (below : List (String × Json)) : List (String × Json) → List (String × Json)
  | [] => below
  | (name, value) :: rest =>
    let value :=
      match member? below name with
      | some other => overlay other value
      | none => value
    overlayMembers (putMember name value below) rest

end

end Json

/-- What is wrong with the settings. -/
inductive SettingsFault where
  /-- The file is there but cannot be read. -/
  | unread (fault : ReadFault)
  /-- The file is not TOML. -/
  | notToml
  /-- The layers together do not have the right form. -/
  | mismatch (found : Json.Mismatch)
  deriving DecidableEq

/-- The wording of a fault. -/
def SettingsFault.display : SettingsFault → String
  | .unread fault => fault.display
  | .notToml => "the file is not TOML"
  | .mismatch found => found.display

/-- Settings with a given file are invalid. -/
structure SettingsError where
  path : String
  fault : SettingsFault
  deriving DecidableEq

/-- The wording of an error. -/
def SettingsError.display (e : SettingsError) : String :=
  "invalid settings (config file '" ++ e.path ++ "'): " ++ e.fault.display

namespace Settings

/-- The layer of a file. No file, or a folder in its place, is an empty layer. -/
def fileLayer (read : FileReader) (path : String) : Except SettingsFault Json :=
  match read path with
  | .ok text =>
    match Toml.read? .v10 text with
    | some document => .ok document
    | none => .error .notToml
  | .error .notText => .error (.unread .notText)
  | .error (.refused reason) => .error (.unread (.refused reason))
  | .error _ => .ok (.object [])

/-- The layer of the variables of the surroundings. -/
def variableLayer (environment : List (String × String)) : Json :=
  (environment.filterMap Variable.setting?).foldl Json.overlay (.object [])

/-- The defaults, some of which are looked up in variables. -/
def defaults (environment : List (String × String)) : Settings where
  log := .ofLookup fun name => (environment.find? (·.1 == name)).map (·.2)

/-- Load the settings of a run. -/
def load (read : FileReader) (environment : List (String × String)) (path : String)
    (overrides : Overrides) : Except SettingsError Settings :=
  match fileLayer read path with
  | .error fault => .error ⟨path, fault⟩
  | .ok file =>
    let layers := [file, variableLayer environment, overrides.toJson]
    match record.decoder .layers (layers.foldl Json.overlay (defaults environment).toJson) with
    | .ok settings => .ok settings
    | .error found => .error ⟨path, .mismatch found⟩

end Settings

end Contracts
