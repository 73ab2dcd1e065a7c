import Contracts.Log.Event

/-!
# Diagnostics

A check of the declarations never fails: it writes messages, and a declaration that gets a
message of error severity is left out. A trace holds the messages of a run together with the
events between them, in order. When diagnostics are logged, every message is announced by an
event of its own right before it.
-/

namespace Contracts

/-- How severe a message is. -/
inductive Severity where
  | info
  /-- Suspicious, but accepted. -/
  | warning
  /-- The declaration is rejected. -/
  | error
  deriving DecidableEq

/-- The name of a severity. -/
def Severity.name : Severity → String
  | .info => "info"
  | .warning => "warning"
  | .error => "error"

/-- The position of a severity, the least severe first. -/
def Severity.rank : Severity → Nat
  | .info => 0
  | .warning => 1
  | .error => 2

/-- The level at which a message of a severity is logged. -/
def Severity.level : Severity → Level
  | .info => .info
  | .warning => .warn
  | .error => .error

/-- A message about a declaration. -/
structure Message where
  severity : Severity
  /-- A name of the problem that does not change with the wording. -/
  code : String
  text : String
  /-- The part of the program that the message comes from. -/
  source : String
  deriving DecidableEq

namespace Message

/-- Whether a message rejects its declaration. -/
def isError (m : Message) : Bool := m.severity == .error

/-- The wording of a message with all that belongs to it. -/
def display (m : Message) : String :=
  m.severity.name ++ "[" ++ m.code ++ "]: " ++ m.text ++ " (" ++ m.source ++ ")"

/-- The event that announces a message. -/
def event (m : Message) : Event :=
  ⟨m.severity.level, "warden_weave::diagnostic", m.text,
    [("code", .text m.code), ("source", .text m.source)]⟩

end Message

/-- Something that happened in a run. -/
inductive Entry where
  /-- A message was written. -/
  | message (m : Message)
  /-- An event was reported. -/
  | event (e : Event)
  deriving DecidableEq

/-- What happened in a run, in order. -/
abbrev Trace := List Entry

namespace Trace

/-- The message of an entry. -/
def message? : Entry → Option Message
  | .message m => some m
  | .event _ => none

/-- The event of an entry. -/
def event? : Entry → Option Event
  | .message _ => none
  | .event e => some e

/-- The messages of a trace. -/
def messages (t : Trace) : List Message := t.filterMap message?

/-- The events of a trace. -/
def events (t : Trace) : List Event := t.filterMap event?

/-- Announce every message by an event. -/
def announced (t : Trace) : Trace :=
  t.flatMap fun
    | .message m => [.event m.event, .message m]
    | .event e => [.event e]

/-- Whether a message of a trace rejects its declaration. -/
def hasError (t : Trace) : Bool := t.messages.any (·.isError)

@[simp] theorem messages_append (s t : Trace) : messages (s ++ t) = messages s ++ messages t :=
  List.filterMap_append

@[simp] theorem events_append (s t : Trace) : events (s ++ t) = events s ++ events t :=
  List.filterMap_append

end Trace

/-- The messages of a severity. -/
def Message.count (messages : List Message) (severity : Severity) : Nat :=
  messages.countP (·.severity == severity)

end Contracts
