import Contracts.File.Basic
import Contracts.Log.Event
import Contracts.Manifest.Basic
import Contracts.Toml.Reader

/-!
# Loading manifests

A manifest is a file, and the extension of its name says how it is written. The file is read
before its name is looked at, so a file that cannot be read is reported as such whatever its
name is.
-/

namespace Contracts

/-- Why a manifest could not be loaded. -/
inductive ManifestError where
  /-- The file could not be read. -/
  | unread (path : String) (fault : ReadFault)
  /-- The extension is that of no known format. -/
  | unsupportedFormat (path : String)
  /-- The text is not JSON, or JSON of another form. -/
  | json (mismatch : Json.Mismatch)
  /-- The text is not TOML, or TOML of another form. -/
  | toml (mismatch : Json.Mismatch)
  deriving DecidableEq

namespace ManifestError

/-- The wording of an error. -/
def display : ManifestError → String
  | .unread path fault => "failed to read manifest '" ++ path ++ "': " ++ fault.display
  | .unsupportedFormat path =>
    "unsupported manifest format '" ++ path ++ "': expected .json or .toml"
  | .json mismatch => "invalid JSON manifest: " ++ mismatch.display
  | .toml mismatch => "invalid TOML manifest: " ++ mismatch.display

/-- What an error names as its reason. -/
def reason? : ManifestError → Option String
  | .unread _ fault => some fault.display
  | .unsupportedFormat _ => none
  | .json mismatch => some mismatch.display
  | .toml mismatch => some mismatch.display

end ManifestError

namespace Manifest

/-- Read a manifest from TOML text. -/
def ofTomlText (text : String) : Json.Decoded Manifest :=
  match Toml.read? .v11 text with
  | some document => decoder .table document
  | none => .error .unreadable

/-- Read a manifest from the text of a file. -/
def ofFile (path text : String) : Except ManifestError Manifest :=
  match extension? path with
  | some "json" => (ofJsonText text).mapError .json
  | some "toml" => (ofTomlText text).mapError .toml
  | _ => .error (.unsupportedFormat path)

/-- Load a manifest. -/
def load (read : FileReader) (path : String) : Except ManifestError Manifest :=
  match read path with
  | .error fault => .error (.unread path fault)
  | .ok text => ofFile path text

/-- The event of a loaded manifest. -/
def loadedEvent (m : Manifest) (path : String) : Event :=
  ⟨.debug, "warden_weave::module", "loaded manifest",
    [("path", .text path), ("types", .count m.declarations.catalogue.types.decls.length),
      ("methods", .count m.methods.length), ("properties", .count m.properties.length)]⟩

end Manifest

end Contracts
