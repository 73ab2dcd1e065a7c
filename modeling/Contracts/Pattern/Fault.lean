/-!
# Faults of a pattern

A pattern that cannot be compiled has a fault, and the fault is what its refusal carries. The faults
are told apart as values. Their wording is added in a report only: nothing is decided by it, and no
property of patterns is stated about it.
-/

namespace Contracts.Pattern

/-- What is wrong with a pattern. -/
inductive Fault where
  /-- The pattern ends in the middle of a construct. -/
  | unfinished
  /-- A group is closed that was never opened. -/
  | unopenedGroup
  /-- A group is never closed. -/
  | unclosedGroup
  /-- The name of a group is empty, badly formed or used twice. -/
  | groupName
  /-- A mode is unknown, given twice or missing. -/
  | mode
  /-- The group looks around its place. -/
  | lookAround
  /-- The escape refers back to a group. -/
  | backReference
  /-- The escape is unknown. -/
  | escape
  /-- The escape stands for no character. -/
  | codePoint
  /-- There is nothing to repeat. -/
  | nothingToRepeat
  /-- The count of a repetition is missing, too large or runs backwards. -/
  | count
  /-- A set is never closed. -/
  | unclosedSet
  /-- A range of a set runs backwards or ends in a set. -/
  | range
  /-- The property is unknown. -/
  | property
  /-- The construct needs characters, but only bytes are looked at. -/
  | bytesOnly
  /-- Constructs are nested too deeply. -/
  | tooDeep
  /-- The compiled pattern would be too large. -/
  | tooLarge
  deriving DecidableEq

/-- The wording of a fault in a report.

The words are this library's own and name no more than the kind of the fault. Engines for such
patterns word their refusals in their own ways, most of them with the pattern and the place of the
fault in it. Hence patterns with different mistakes of one kind are refused in the same words here,
and a report is not to be compared word by word with that of another engine. -/
def Fault.display : Fault → String
  | .unfinished => "the pattern ends too early"
  | .unopenedGroup => "unopened group"
  | .unclosedGroup => "unclosed group"
  | .groupName => "invalid group name"
  | .mode => "invalid mode"
  | .lookAround => "look-around is not supported"
  | .backReference => "back-references are not supported"
  | .escape => "unrecognized escape"
  | .codePoint => "escape is not a character"
  | .nothingToRepeat => "repetition of nothing"
  | .count => "invalid repetition count"
  | .unclosedSet => "unclosed character set"
  | .range => "invalid range in a character set"
  | .property => "unknown character property"
  | .bytesOnly => "construct needs characters, not bytes"
  | .tooDeep => "pattern is nested too deeply"
  | .tooLarge => "compiled pattern is too large"

end Contracts.Pattern
