/-!
# Events

An event is what is worth logging of a run: how grave it is, which part of the program it comes
from, a message, and fields. Whether and how it is written is decided elsewhere.
-/

namespace Contracts

/-- How grave an event is. -/
inductive Level where
  | error
  | warn
  | info
  | debug
  | trace
  deriving DecidableEq

/-- The name of a level on a line of a log. -/
def Level.name : Level → String
  | .error => "ERROR"
  | .warn => "WARN"
  | .info => "INFO"
  | .debug => "DEBUG"
  | .trace => "TRACE"

/-- The position of a level, the gravest first, counted from one. -/
def Level.rank : Level → Nat
  | .error => 1
  | .warn => 2
  | .info => 3
  | .debug => 4
  | .trace => 5

/-- The value of a field. -/
inductive FieldValue where
  | text (s : String)
  /-- A text that stands between quotes on a plain line. -/
  | word (s : String)
  | count (n : Nat)
  deriving DecidableEq

/-- Write the value of a field. -/
def FieldValue.display : FieldValue → String
  | .text s => s
  | .word s => s
  | .count n => toString n

/-- An event. -/
structure Event where
  level : Level
  /-- The part of the program that the event comes from. -/
  target : String
  message : String
  fields : List (String × FieldValue)
  deriving DecidableEq

end Contracts
