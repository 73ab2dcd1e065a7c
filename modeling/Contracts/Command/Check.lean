import Contracts.Json.Printer
import Contracts.Settings.Basic
import Contracts.Weaving.Scan

/-!
# Check reports

The report on a manifest: every message of its scan, every interception of its plan, and the
counts. The manifest passes if there is no error, and no warning either where warnings count as
failures.
-/

namespace Contracts

/-- An interception in a report. -/
structure InterceptionSummary where
  joinPoint : String
  /-- The method or the type that is intercepted. -/
  target : String
  /-- The names of the checked parameters. -/
  parameters : List String
  /-- The description of the validator. -/
  validator : String
  deriving DecidableEq

namespace InterceptionSummary

/-- The summary of an interception. -/
def ofInterception {V : Type} [Validator V] (store : Store V) (i : Interception) :
    InterceptionSummary where
  joinPoint := i.joinPoint.kind
  target := i.joinPoint.target
  parameters := i.joinPoint.covered.map (·.name)
  validator := Validator.describe (store i.validator)

/-- The summary on one line. -/
def line (s : InterceptionSummary) : String :=
  "woven: " ++ s.joinPoint ++ " " ++ s.target ++ " (" ++ String.intercalate ", " s.parameters ++
    ") " ++ s.validator

/-- The document of a summary. -/
def toJson (s : InterceptionSummary) : Json :=
  .object [("join_point", .text s.joinPoint), ("target", .text s.target),
    ("parameters", .array (s.parameters.map .text)), ("validator", .text s.validator)]

end InterceptionSummary

/-- The document of a message. -/
def Message.toJson (m : Message) : Json :=
  .object [("severity", .text m.severity.name), ("code", .text m.code), ("text", .text m.text),
    ("source", .text m.source)]

/-- The document of what a scan counted. -/
def ScanReport.toJson (r : ScanReport) : Json :=
  .object [("methods", .integer r.methods), ("properties", .integer r.properties),
    ("registered", .integer r.registered), ("excluded", .integer r.excluded)]

/-- The report on a manifest. -/
structure CheckReport where
  passed : Bool
  counts : ScanReport
  messages : List Message
  interceptions : List InterceptionSummary

namespace CheckReport

/-- The report on a scan. -/
def ofScan {V : Type} [Validator V] (scan : Scan V) (denyWarnings : Bool) : CheckReport where
  passed := Message.count scan.messages .error == 0 &&
    !(denyWarnings && Message.count scan.messages .warning != 0)
  counts := scan.report
  messages := scan.messages
  interceptions := scan.plan.map (.ofInterception scan.store)

/-- The last line of a report. -/
def summary (r : CheckReport) : String :=
  toString r.counts.methods ++ " methods, " ++ toString r.counts.properties ++ " properties: " ++
    toString r.counts.registered ++ " registered, " ++ toString r.counts.excluded ++
    " excluded, " ++ toString (Message.count r.messages .error) ++ " errors, " ++
    toString (Message.count r.messages .warning) ++ " warnings"

/-- The lines of a report. -/
def lines (r : CheckReport) : List String :=
  r.messages.map (·.display) ++ r.interceptions.map (·.line) ++ [r.summary]

/-- The document of a report. -/
def toJson (r : CheckReport) : Json :=
  .object [("passed", .bool r.passed), ("report", r.counts.toJson),
    ("errors", .integer (Message.count r.messages .error)),
    ("warnings", .integer (Message.count r.messages .warning)),
    ("diagnostics", .array (r.messages.map (·.toJson))),
    ("units", .array (r.interceptions.map (·.toJson)))]

/-- Write a report. -/
def write (r : CheckReport) (format : ReportFormat) : String :=
  match format with
  | .human => String.join (r.lines.map (· ++ "\n"))
  | .json => r.toJson.toIndented ++ "\n"

end CheckReport

end Contracts
