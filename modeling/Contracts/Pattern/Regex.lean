import Contracts.Failure.Basic
import Contracts.Pattern.Matcher
import Contracts.Pattern.Reader
import Contracts.Pattern.Size

/-!
# Compiled patterns

A pattern is compiled once and then searched for in any number of texts. Compilation fails when
there is no pattern to speak of, when it cannot be read, and when its compiled form would be too
large.
-/

namespace Contracts

/-- A compiled pattern. -/
structure Regex where
  source : String
  matcher : Pattern.Matcher Unicode.CodeSet Pattern.PlaceTest

/-- Whether a pattern is found anywhere in a text. -/
def Regex.isMatch (regex : Regex) (text : String) : Bool := regex.matcher.isMatch text

/-- How a pattern is compiled. -/
structure PatternOptions where
  caseInsensitive : Bool := false
  multiLine : Bool := false
  dotMatchesNewLine : Bool := false
  ignoreWhitespace : Bool := false
  deriving DecidableEq

namespace PatternOptions

/-- The modes in which a pattern starts. -/
def modes (options : PatternOptions) : Pattern.Modes :=
  { ignoreCase := options.caseInsensitive
    multiLine := options.multiLine
    dotAll := options.dotMatchesNewLine }

/-- Read a pattern and bring it to normal form. -/
def normalForm (options : PatternOptions) (source : String) :
    Except Pattern.Fault Pattern.Normal := do
  let expression ← Pattern.Expression.read source options.ignoreWhitespace
  let (normal, _) ← expression.normalise options.modes
  return normal

/-- Compile a pattern that is there. -/
def matcher (options : PatternOptions) (source : String) :
    Except Pattern.Fault (Pattern.Matcher Unicode.CodeSet Pattern.PlaceTest) := do
  let normal ← options.normalForm source
  normal.checkSize
  return normal.matcher

/-- Compile a pattern; an empty one is as good as none, and any other that cannot be compiled is
refused with its fault. -/
def compile (options : PatternOptions) (source : String) : Except ConfigurationError Regex :=
  if source.isEmpty then .error .emptyPattern
  else match options.matcher source with
    | .ok m => .ok ⟨source, m⟩
    | .error fault => .error (.invalidPattern fault)

end PatternOptions

end Contracts
