import Contracts.Command.Check
import Contracts.Command.Replay
import Contracts.CommandLine.Request
import Contracts.Log.Line
import Contracts.Manifest.Load
import Contracts.Settings.Layers
import Contracts.Toml.Printer
import Contracts.Value.Json

/-!
# Runs

A run reads the command line, loads the settings, sets the log up and carries out its command.
It ends with code 0 if all is well, with code 1 if a manifest or a call does not pass, and with
code 2 if the run itself fails.
-/

namespace Contracts

/-- Why a run fails. -/
inductive RunError where
  | settings (e : SettingsError)
  | logging (e : LogError)
  | manifest (path : String) (e : ManifestError)
  /-- The method of a replay has no proper path. -/
  | method (text : String)
  /-- The arguments of a replay are no list of values. -/
  | arguments (m : Json.Mismatch)
  /-- The target of a replay is no value. -/
  | target (m : Json.Mismatch)
  deriving DecidableEq

/-- The wording of an error, with what led to it behind it. -/
def RunError.display : RunError → String
  | .settings e => e.display
  | .logging e => "failed to initialize logging: " ++ e.display
  | .manifest path e =>
    "failed to load manifest '" ++ path ++ "': " ++ e.display ++
      (e.reason?.map (": " ++ ·)).getD ""
  | .method text => "method must be written as Type::method, got '" ++ text ++ "'"
  | .arguments m => "--args must be a JSON array: " ++ m.display
  | .target m => "--target must be JSON: " ++ m.display

/-- How a command ends: its report and whether all is well. -/
structure Completion where
  output : String
  passed : Bool

/-- How a run ends. -/
inductive Ending where
  /-- The command line leads to no command. -/
  | refused (refusal : Refusal)
  /-- The run fails. -/
  | failed (e : RunError)
  /-- The command is carried out. -/
  | completed (c : Completion)

/-- What a run leaves behind. -/
structure RunResult where
  /-- The lines of the log. -/
  log : List String := []
  ending : Ending

namespace RunResult

/-- The name and the version of the program. -/
def version : String := "warden 0.1.0"

/-- What the program is for, and how. -/
def help : String :=
  "Usage: warden [-c FILE] [-o human|json] [--log-level FILTER] [--log-format FORMAT] COMMAND\n" ++
  "\n" ++
  "  check MANIFEST [--deny-warnings]\n" ++
  "  replay MANIFEST -m TYPE::METHOD [-a JSON] [-t JSON]\n" ++
  "  config\n"

/-- The code with which the run ends. -/
def code (r : RunResult) : Nat :=
  match r.ending with
  | .refused .help | .refused .version => 0
  | .refused _ => 2
  | .failed _ => 2
  | .completed c => if c.passed then 0 else 1

/-- What the run writes as its result. -/
def output (r : RunResult) : String :=
  match r.ending with
  | .refused .help => help
  | .refused .version => version ++ "\n"
  | .refused _ => ""
  | .failed _ => ""
  | .completed c => c.output

/-- The line that says why the run fails. -/
def errorLine? (r : RunResult) : Option String :=
  match r.ending with
  | .failed e => some ("error: " ++ e.display)
  | _ => none

end RunResult

/-- What a part of a run did: its events, and its result or its error. -/
structure Stage (α : Type) where
  events : List Event := []
  result : Except RunError α

namespace Stage

variable {α β : Type}

/-- A stage without events. -/
def ofExcept (result : Except RunError α) : Stage α := { result }

/-- A stage that only reports events. -/
def report (events : List Event) : Stage Unit := { events, result := .ok () }

/-- Go on to another stage, unless the stage fails. -/
def andThen (s : Stage α) (next : α → Stage β) : Stage β :=
  match s.result with
  | .ok a =>
    let t := next a
    { events := s.events ++ t.events, result := t.result }
  | .error e => { events := s.events, result := .error e }

instance : Monad Stage where
  pure a := .ofExcept (.ok a)
  bind := andThen

end Stage

namespace Command

/-- Load a manifest and scan it. Every message is logged. -/
def weave (read : FileReader) (path : String) : Stage (Scan Annotation) :=
  match Manifest.load read path with
  | .error e => .ofExcept (.error (.manifest path e))
  | .ok m =>
    let scan := m.declarations.scan m.store
    { events := m.loadedEvent path :: scan.trace.announced.events, result := .ok scan }

/-- Read the arguments of a replay. -/
def readArguments (text : String) : Except RunError (List Value) :=
  (Json.decodeText (Json.Decoder.list Value.decoder) text).mapError .arguments

/-- Read the target of a replay. -/
def readTarget (text : Option String) : Except RunError (Option Value) :=
  match text with
  | none => .ok none
  | some text => ((Json.decodeText Value.decoder text).map some).mapError .target

/-- Replay a call of a method of a manifest. -/
def runReplay (read : FileReader) (settings : Settings) (manifest method arguments : String)
    (target : Option String) : Stage Completion := do
  let path ← .ofExcept <|
    match MethodPath.read? method with
    | some path => .ok path
    | none => .error (.method method)
  let values ← .ofExcept (readArguments arguments)
  let target ← .ofExcept (readTarget target)
  let scan ← weave read manifest
  let report := ReplayReport.ofCall scan.plan scan.store method path target values
  Stage.report report.events
  return ⟨report.write settings.output, report.passed⟩

/-- Check a manifest. -/
def runCheck (read : FileReader) (settings : Settings) (manifest : String) : Stage Completion := do
  let scan ← weave read manifest
  let report := CheckReport.ofScan scan settings.denyWarnings
  return ⟨report.write settings.output, report.passed⟩

/-- Carry out a command. -/
def perform (command : Command) (read : FileReader) (settings : Settings) : Stage Completion :=
  match command with
  | .check manifest => runCheck read settings manifest
  | .replay manifest method arguments target =>
    runReplay read settings manifest method arguments target
  | .config => return ⟨Toml.document settings.members, true⟩

end Command

namespace Request

/-- The event of loaded settings. -/
def loadedEvent (r : Request) : Event :=
  ⟨.debug, "warden", "settings loaded", [("config", .text r.settingsPath)]⟩

/-- Carry out a request. -/
def perform (r : Request) (read : FileReader) (environment : List (String × String)) : RunResult :=
  match Settings.load read environment r.settingsPath r.overrides with
  | .error e => { ending := .failed (.settings e) }
  | .ok settings =>
    match Log.open? settings.log with
    | .error e => { ending := .failed (.logging e) }
    | .ok log =>
      let stage := r.command.perform read settings
      { log := log.lines (log.openedEvent :: r.loadedEvent :: stage.events)
        ending :=
          match stage.result with
          | .ok c => .completed c
          | .error e => .failed e }

end Request

/-- The variable that names the file of settings. -/
def settingsVariable : String := "WARDEN_CONFIG"

/-- Run the program on the words of a command line and the variables of its surroundings. -/
def run (read : FileReader) (environment : List (String × String)) (words : List String) :
    RunResult :=
  let fallback := (environment.find? (·.1 == settingsVariable)).map (·.2)
  match Request.ofWords words fallback with
  | .error refusal => { ending := .refused refusal }
  | .ok request => request.perform read environment

end Contracts
