import Contracts.Json.Printer
import Contracts.Log.Config

/-!
# Log lines

An event is written on one line, either as words or as a JSON object. On a plain line the
message cannot reach the terminal's controls: what could is written as an escape. Colours, times
and places in the program's text are not part of a line.
-/

namespace Contracts

namespace Event

/-- Escape a character of a message that a terminal would act on. -/
def escape (c : Char) : List Char :=
  let code := Nat.toDigits 16 c.toNat
  if c = '\x1b' ∨ c = '\x7f' then '\\' :: 'x' :: code
  else if c = '\x07' ∨ c = '\x08' ∨ c = '\x0c' then '\\' :: 'x' :: '0' :: code
  else if 0x80 ≤ c.toNat ∧ c.toNat < 0xA0 then '\\' :: 'u' :: '\x7b' :: code ++ ['\x7d']
  else [c]

/-- Write the value of a field on a plain line. -/
def fieldText : FieldValue → String
  | .word s => Text.quoted s
  | v => v.display

/-- The event as words: the level, the part of the program, the message, the fields. -/
def plainLine (display : LogDisplay) (e : Event) : String :=
  let level := String.ofList (List.replicate (5 - e.level.name.length) ' ') ++ e.level.name
  let target := if display.target then e.target ++ ": " else ""
  let fields := e.fields.map fun (name, value) => " " ++ name ++ "=" ++ fieldText value
  level ++ " " ++ target ++ String.ofList (e.message.toList.flatMap escape) ++ String.join fields

/-- The document of a field's value. -/
def fieldJson : FieldValue → Json
  | .count n => .integer n
  | v => .text v.display

/-- The event as a JSON object. -/
def jsonLine (display : LogDisplay) (e : Event) : String :=
  let fields := ("message", Json.text e.message) ::
    e.fields.map fun (name, value) => (name, fieldJson value)
  let target := if display.target then [("target", Json.text e.target)] else []
  Json.toCompact (.object ([("level", .text e.level.name), ("fields", .object fields)] ++ target))

/-- The event on a line of the log. -/
def line (config : LogConfig) (e : Event) : String :=
  match config.format with
  | .json => e.jsonLine config.display
  | _ => e.plainLine config.display

end Event

/-- A log that has been set up. -/
structure Log where
  config : LogConfig
  filter : LogFilter

namespace Log

/-- Set a log up. -/
def open? (config : LogConfig) : Except LogError Log :=
  match LogFilter.read config.level with
  | .ok filter => .ok ⟨config, filter⟩
  | .error fault => .error (.filter config.level fault)

/-- The event of a log that has been set up. -/
def openedEvent (log : Log) : Event :=
  ⟨.debug, "warden_log::builder", "logging initialized",
    [("level", .text log.config.level), ("format", .text log.config.format.name)]⟩

/-- The lines of events. -/
def lines (log : Log) (events : List Event) : List String :=
  (events.filter log.filter.allows).map (·.line log.config)

end Log

end Contracts
