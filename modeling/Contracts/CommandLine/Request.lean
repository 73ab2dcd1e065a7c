import Contracts.CommandLine.Switch
import Contracts.Settings.Basic

/-!
# Requests

What a command line asks for: a command, the file of settings, and settings that override those
of the file. Some switches may be given before and behind the name of the command, and those
behind it count.
-/

namespace Contracts

/-- A command with its operands. -/
inductive Command where
  /-- Report what is woven, and every message. -/
  | check (manifest : String)
  /-- Run the checks of a method on arguments. -/
  | replay (manifest method arguments : String) (target : Option String)
  /-- Print the settings. -/
  | config
  deriving DecidableEq

/-- What a command line asks for. -/
structure Request where
  settingsPath : String
  overrides : Overrides
  command : Command
  deriving DecidableEq

/-- A request that is being put together. -/
structure RequestDraft where
  settingsPath : Option String := none
  overrides : Overrides := {}
  method : Option String := none
  arguments : Option String := none
  target : Option String := none

namespace RequestDraft

/-- The switch for help. -/
def helpSwitch : Switch RequestDraft := ⟨"help", some 'h', .ends .help⟩

/-- The switches that may stand before and behind the name of a command. -/
def sharedSwitches : List (Switch RequestDraft) := [
  ⟨"log-level", none, .value fun level d =>
    some { d with overrides := { d.overrides with logLevel := some level } }⟩,
  ⟨"log-format", none, .value fun name d =>
    (LogFormat.ofName? name).map fun format =>
      { d with overrides := { d.overrides with logFormat := some format } }⟩,
  ⟨"output", some 'o', .value fun name d =>
    (ReportFormat.ofName? name).map fun format =>
      { d with overrides := { d.overrides with output := some format } }⟩,
  helpSwitch]

/-- The switches that may stand before the name of a command. -/
def frontSwitches : List (Switch RequestDraft) := [
  ⟨"config", some 'c', .value fun path d =>
    if path.isEmpty then none else some { d with settingsPath := some path }⟩,
  ⟨"version", some 'V', .ends .version⟩] ++ sharedSwitches

/-- The switches of a check. -/
def checkSwitches : List (Switch RequestDraft) := [
  ⟨"deny-warnings", none, .plain fun d =>
    { d with overrides := { d.overrides with denyWarnings := some true } }⟩] ++ sharedSwitches

/-- The switches of a replay. -/
def replaySwitches : List (Switch RequestDraft) := [
  ⟨"method", some 'm', .value fun method d => some { d with method := some method }⟩,
  ⟨"args", some 'a', .value fun arguments d => some { d with arguments := some arguments }⟩,
  ⟨"target", some 't', .value fun target d => some { d with target := some target }⟩] ++
    sharedSwitches

/-- Read the words behind the name of a command. -/
def readAll (switches : List (Switch RequestDraft)) (words : List String) :
    Except Refusal (RequestDraft × List String) := do
  let (r, _) ← Switch.readWords switches false words { draft := {} }
  return (r.draft, r.operands)

/-- The manifest that the operands name. -/
def manifest (operands : List String) : Except Refusal String :=
  match operands with
  | [path] => if path.isEmpty then .error .misuse else .ok path
  | _ => .error .misuse

/-- What asking for help comes to, given the words behind it: nothing, or the name of one
command. -/
def helpOn (words : List String) : Refusal :=
  match words with
  | [] => .help
  | [name] => if ["check", "replay", "config", "help"].contains name then .help else .misuse
  | _ => .misuse

/-- Read a command from its name and the words behind it. -/
def command (name : String) (words : List String) : Except Refusal (Overrides × Command) :=
  match name with
  | "check" => do
    let (d, operands) ← readAll checkSwitches words
    return (d.overrides, .check (← manifest operands))
  | "replay" => do
    let (d, operands) ← readAll replaySwitches words
    let path ← manifest operands
    match d.method with
    | some method =>
      return (d.overrides, .replay path method (d.arguments.getD "[]") d.target)
    | none => .error .misuse
  | "config" => do
    let (d, operands) ← readAll sharedSwitches words
    if operands.isEmpty then return (d.overrides, .config) else .error .misuse
  | "help" => .error (helpOn words)
  | _ => .error .misuse

end RequestDraft

namespace Request

/-- The settings given behind the name of a command, and those before it. -/
def combine (behind front : Overrides) : Overrides where
  output := behind.output <|> front.output
  denyWarnings := behind.denyWarnings <|> front.denyWarnings
  logLevel := behind.logLevel <|> front.logLevel
  logFormat := behind.logFormat <|> front.logFormat

/-- The path of the settings, which a variable names if no switch does. -/
def settingsPath? (given fallback : Option String) : Except Refusal String :=
  match given <|> fallback with
  | none => .ok "warden.toml"
  | some path => if path.isEmpty then .error .misuse else .ok path

/-- Read a request from the words of a command line and the variable that names the settings. -/
def ofWords (words : List String) (fallback : Option String) : Except Refusal Request := do
  let (front, rest) ← Switch.readWords RequestDraft.frontSwitches true words { draft := {} }
  match front.operands, rest with
  | [], name :: rest =>
    let (overrides, command) ← RequestDraft.command name rest
    let path ← settingsPath? front.draft.settingsPath fallback
    return ⟨path, combine overrides front.draft.overrides, command⟩
  | [], [] =>
    let _ ← settingsPath? front.draft.settingsPath fallback
    if front.given.isEmpty && fallback.isNone then .error .nothing else .error .misuse
  | _, _ => .error .misuse

end Request

end Contracts
