import Contracts.Log.Config

/-!
# Settings

What a run can be told beside its command: the format of its report, whether warnings count as
failures, and how it is logged.
-/

namespace Contracts

/-- The format of a report. -/
inductive ReportFormat where
  /-- Lines of text. -/
  | human
  /-- One JSON document. -/
  | json
  deriving DecidableEq

namespace ReportFormat

/-- The name of a format. -/
def name : ReportFormat → String
  | .human => "human"
  | .json => "json"

/-- All formats. -/
def all : List ReportFormat := [.human, .json]

/-- The format of a name. -/
def ofName? (name : String) : Option ReportFormat := all.find? (·.name == name)

/-- Decode a format. -/
def decoder : Json.Decoder ReportFormat :=
  Json.Variant.decoder (all.map fun format => .unit format.name format)

end ReportFormat

/-- The settings of a run. -/
structure Settings where
  output : ReportFormat := .human
  /-- Whether a warning makes a check fail. -/
  denyWarnings : Bool := false
  log : LogConfig := {}
  deriving DecidableEq

namespace Settings

/-- The record of settings. -/
def record : Json.Record Settings where
  title := "struct Settings"
  blank := {}
  fields := [
    .of "output" true ReportFormat.decoder fun output s => { s with output },
    .of "deny_warnings" true Json.Decoder.bool fun denyWarnings s => { s with denyWarnings },
    .of "log" true LogConfig.decoder fun log s => { s with log }]
  strict := false

/-- The members of the document of settings. -/
def members (s : Settings) : List (String × Json) :=
  [("output", .text s.output.name), ("deny_warnings", .bool s.denyWarnings),
    ("log", s.log.toJson)]

/-- The document of settings. -/
def toJson (s : Settings) : Json := .object s.members

end Settings

/-- The settings that the command line gives; the rest is left alone. -/
structure Overrides where
  output : Option ReportFormat := none
  denyWarnings : Option Bool := none
  logLevel : Option String := none
  logFormat : Option LogFormat := none
  deriving DecidableEq

namespace Overrides

/-- A member that may be left out. -/
def member? {α : Type} (name : String) (toJson : α → Json) (value : Option α) :
    List (String × Json) :=
  (value.map fun a => (name, toJson a)).toList

/-- The document of what the command line gives. -/
def toJson (o : Overrides) : Json :=
  .object (member? "output" (.text ·.name) o.output ++
    member? "deny_warnings" .bool o.denyWarnings ++
    [("log", .object (member? "level" .text o.logLevel ++
      member? "format" (.text ·.name) o.logFormat))])

end Overrides

end Contracts
