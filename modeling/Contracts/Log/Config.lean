import Contracts.Json.Decode
import Contracts.Log.Filter

/-!
# Logging configuration

Which events are written, in which format, and what a line shows besides the message. The
configuration has a default, one for development and one for production, and it can be looked up
in variables or decoded from a document, where every part may be left out.
-/

namespace Contracts

/-- The format of log lines. -/
inductive LogFormat where
  /-- One line for each event. -/
  | compact
  /-- Several lines for each event. -/
  | pretty
  /-- One JSON object for each event. -/
  | json
  deriving DecidableEq

namespace LogFormat

/-- The name of a format. -/
def name : LogFormat → String
  | .compact => "compact"
  | .pretty => "pretty"
  | .json => "json"

/-- All formats. -/
def all : List LogFormat := [.compact, .pretty, .json]

/-- The format of a name in any case of ASCII letters. -/
def ofName? (name : String) : Option LogFormat :=
  all.find? (·.name == String.ofList (name.toList.map Char.toLower))

/-- Decode a format, whose name must be in lower case. -/
def decoder : Json.Decoder LogFormat :=
  Json.Variant.decoder (all.map fun format => .unit format.name format)

end LogFormat

/-- Why logging could not be set up. -/
inductive LogError where
  /-- The filter cannot be read. -/
  | filter (text : String) (fault : LogFault)
  /-- There is no format of the name. -/
  | unknownFormat (name : String)
  deriving DecidableEq

/-- The wording of an error. -/
def LogError.display : LogError → String
  | .filter text fault => "invalid log filter '" ++ text ++ "': " ++ fault.display
  | .unknownFormat name =>
    "unknown log format '" ++ name ++ "', expected compact, pretty or json"

/-- What a line shows besides the message and its fields. -/
structure LogDisplay where
  /-- Whether the line is coloured. -/
  colors : Bool := false
  /-- Whether the line names the part of the program. -/
  target : Bool := true
  /-- Whether the line names the place in the program's text. -/
  source : Bool := false
  /-- Whether the line begins with the time. -/
  time : Bool := true
  deriving DecidableEq

/-- The record of what a line shows. -/
def LogDisplay.record : Json.Record LogDisplay where
  title := "struct DisplayConfig"
  blank := {}
  fields := [
    .of "colors" false Json.Decoder.bool fun colors d => { d with colors },
    .of "target" false Json.Decoder.bool fun target d => { d with target },
    .of "source" false Json.Decoder.bool fun source d => { d with source },
    .of "time" false Json.Decoder.bool fun time d => { d with time }]
  strict := false

/-- The document of what a line shows. -/
def LogDisplay.toJson (d : LogDisplay) : Json :=
  .object [("colors", .bool d.colors), ("target", .bool d.target), ("source", .bool d.source),
    ("time", .bool d.time)]

/-- How a run is logged. -/
structure LogConfig where
  /-- The filter that says which events are written. -/
  level : String := "warn"
  format : LogFormat := .compact
  display : LogDisplay := {}
  deriving DecidableEq

namespace LogConfig

/-- Everything there is to see, in colours. -/
def development : LogConfig where
  level := "debug"
  format := .pretty
  display := { colors := true, source := true }

/-- What a machine reads. -/
def production : LogConfig where
  level := "info"
  format := .json

/-- The default with the settings of variables. Of the two variables for the level the first one
counts, and a format of no known name is the default one. -/
def ofLookup (lookup : String → Option String) : LogConfig where
  level := ((lookup "WARDEN_LOG" <|> lookup "RUST_LOG").getD "warn")
  format := ((lookup "WARDEN_LOG_FORMAT").bind LogFormat.ofName?).getD .compact

/-- Replace the format by the one of a name. -/
def withFormat (config : LogConfig) (name : String) : Except LogError LogConfig :=
  match LogFormat.ofName? name with
  | some format => .ok { config with format }
  | none => .error (.unknownFormat name)

/-- The record of a configuration. -/
def record : Json.Record LogConfig where
  title := "struct Config"
  blank := {}
  fields := [
    .of "level" false Json.Decoder.text fun level c => { c with level },
    .of "format" false LogFormat.decoder fun format c => { c with format },
    .of "display" false LogDisplay.record.decoder fun display c => { c with display }]
  strict := false

/-- Decode a configuration. -/
def decoder : Json.Decoder LogConfig := record.decoder

/-- The document of a configuration. -/
def toJson (c : LogConfig) : Json :=
  .object [("level", .text c.level), ("format", .text c.format.name),
    ("display", c.display.toJson)]

end LogConfig

end Contracts
