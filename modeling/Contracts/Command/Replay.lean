import Contracts.Json.Printer
import Contracts.Settings.Basic
import Contracts.Weaving.Plan

/-!
# Replays

A replay runs what is woven before the body of a method, as a call with given arguments would.
The method is named by its type and its own name, two colons between them; the type's name may
hold colons too.
-/

namespace Contracts

/-- The path of a method. -/
structure MethodPath where
  type : String
  method : String
  deriving DecidableEq

namespace MethodPath

/-- Split a text at the last two colons that stand side by side. -/
def splitLast : List Char → Option (List Char × List Char)
  | [] => none
  | c :: rest =>
    match splitLast rest with
    | some (front, back) => some (c :: front, back)
    | none =>
      match c, rest with
      | ':', ':' :: back => some ([], back)
      | _, _ => none

/-- Read the path of a method, both parts of which must be there. -/
def read? (text : String) : Option MethodPath :=
  match splitLast text.toList with
  | some (type, method) =>
    if type.isEmpty || method.isEmpty then none
    else some ⟨String.ofList type, String.ofList method⟩
  | none => none

end MethodPath

/-- Why a call is rejected. -/
structure Rejection where
  kind : String
  parameter : Option String
  message : String
  deriving DecidableEq

namespace Rejection

/-- The name of the kind of a failure: a violation's own kind, or the custom error type. -/
def kindOf : Failure → String
  | .violation v => v.kind.name
  | .custom e => e.typeName
  | .configuration _ => "configuration"

/-- The rejection for a failure. -/
def ofFailure (f : Failure) : Rejection := ⟨kindOf f, f.parameter?, f.display⟩

/-- The document of a rejection. -/
def toJson (r : Rejection) : Json :=
  .object [("kind", .text r.kind), ("parameter", (r.parameter.map .text).getD .null),
    ("message", .text r.message)]

end Rejection

/-- The report on a replay. -/
structure ReplayReport where
  /-- The path of the method as it was given. -/
  method : String
  /-- The number of interceptions before the body of the method. -/
  checks : Nat
  rejection : Option Rejection
  deriving DecidableEq

namespace ReplayReport

/-- Whether the call would go on to the body of the method. -/
def passed (r : ReplayReport) : Bool := r.rejection.isNone

/-- Replay a call. -/
def ofCall {V : Type} [Validator V] (plan : WeavePlan) (store : Store V) (method : String)
    (path : MethodPath) (target : Option Value) (arguments : List Value) : ReplayReport where
  method
  checks := (plan.ofMethod path.type path.method).length
  rejection :=
    match (plan.checkCall store path.type path.method target arguments).1 with
    | .ok () => none
    | .error f => some (.ofFailure f)

/-- The line of a report. -/
def line (r : ReplayReport) : String :=
  match r.rejection with
  | none => r.method ++ ": passed " ++ toString r.checks ++ " checks"
  | some rejection =>
    r.method ++ ": rejected (" ++ rejection.kind ++ "): " ++ rejection.message

/-- The document of a report. -/
def toJson (r : ReplayReport) : Json :=
  .object ([("method", .text r.method), ("checks", .integer r.checks),
    ("passed", .bool r.passed)] ++
    (r.rejection.map fun rejection => ("rejection", rejection.toJson)).toList)

/-- Write a report. -/
def write (r : ReplayReport) (format : ReportFormat) : String :=
  match format with
  | .human => r.line ++ "\n"
  | .json => r.toJson.toIndented ++ "\n"

/-- The event of a replay that has nothing to run. -/
def unwovenEvent (method : String) : Event :=
  ⟨.warn, "warden::commands::replay", "no checks are woven into this method",
    [("method", .text method)]⟩

/-- The events of a report. -/
def events (r : ReplayReport) : List Event :=
  if r.checks = 0 then [unwovenEvent r.method] else []

end ReplayReport

end Contracts
