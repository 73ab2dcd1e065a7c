import Contracts.Pattern.Regex
import Contracts.Rule.Presence

/-!
# The pattern rule

A present text has to contain a match of the pattern; to ask for a match of the whole text the
pattern is anchored. A pattern that is absent, empty or badly formed fails every check as
misconfigured, before the text is looked at.
-/

namespace Contracts.Rule

/-- The kind of the violation of a pattern. -/
def patternKind : ViolationKind := .argument

/-- The text of the violation of a pattern. -/
def patternText (parameter : String) : String :=
  "The parameter '" ++ parameter ++ "' does not match the defined pattern."

/-- Fail when a present text holds no match of a compiled pattern. -/
def pattern (value : Option String) (regex : Option Regex) (parameter : String)
    (report : Report) : Outcome :=
  match regex with
  | none => .error (.configuration .emptyPattern)
  | some regex =>
    match value with
    | none => .ok ()
    | some text =>
      if regex.isMatch text then .ok () else .error (report (patternText parameter))

/-- Fail when a present text holds no match of a pattern, which is compiled first. -/
def patternSource (value : Option String) (source : Option String) (options : PatternOptions)
    (parameter : String) (report : Report) : Outcome :=
  match source with
  | none => .error (.configuration .emptyPattern)
  | some source =>
    match options.compile source with
    | .error e => .error (.configuration e)
    | .ok regex => pattern value (some regex) parameter report

end Contracts.Rule
