import Contracts.Pattern.Fault

/-!
# Failures of a check

A check fails in one of two ways that never mix. A value broke its rule: the failure is a
violation of a built-in kind, or an error built by the constructor of a custom error type. Or the
rule itself is misconfigured, which is a fault of the annotation and no statement about the
value.
-/

namespace Contracts

/-- The kinds of violation that need no custom error type. -/
inductive ViolationKind where
  /-- A required value was absent. -/
  | argumentNull
  /-- A value fell outside its interval. -/
  | argumentOutOfRange
  /-- A value was present but otherwise unacceptable. -/
  | argument
  deriving DecidableEq

/-- The name of a kind in reports. -/
def ViolationKind.name : ViolationKind → String
  | .argumentNull => "argument_null"
  | .argumentOutOfRange => "argument_out_of_range"
  | .argument => "argument"

/-- A value broke its rule. -/
structure Violation where
  kind : ViolationKind
  message : String
  /-- The checked parameter, if known. -/
  parameter : Option String := none
  /-- What is worth knowing of the rule, in order. -/
  details : List (String × String) := []
  deriving DecidableEq

namespace Violation

/-- The first detail of a name. -/
def detail? (v : Violation) (name : String) : Option String :=
  (v.details.find? (·.1 == name)).map (·.2)

/-- The message, and behind it the parameter. -/
def display (v : Violation) : String :=
  match v.parameter with
  | none => v.message
  | some p => v.message ++ " (parameter '" ++ p ++ "')"

end Violation

/-- The error that a constructor built from a message. -/
inductive Cause where
  /-- The generic error of a declared type without a constructor of its own. -/
  | host (typeName message : String)
  /-- An error of a registered type, by what it says. -/
  | custom (text : String)
  deriving DecidableEq

/-- What an error says. -/
def Cause.display : Cause → String
  | .host _ message => message
  | .custom text => text

/-- An error of a custom type. -/
structure CustomError where
  typeName : String
  cause : Cause
  deriving DecidableEq

/-- The type, and behind it what the error says. -/
def CustomError.display (e : CustomError) : String := e.typeName ++ ": " ++ e.cause.display

/-- The two ends of an interval. -/
inductive End where
  | min
  | max
  deriving DecidableEq

/-- The name of an end. -/
def End.name : End → String
  | .min => "min"
  | .max => "max"

/-- A rule is misconfigured, or was prepared for values of another shape. -/
inductive ConfigurationError where
  /-- A bound of an interval is absent. -/
  | missingBound (bound : End)
  /-- The value's kind has no order with the bound's kind. -/
  | incomparableBounds (value bound : String)
  /-- There is no pattern, or it is empty. -/
  | emptyPattern
  /-- The pattern does not compile, by its fault. -/
  | invalidPattern (fault : Pattern.Fault)
  /-- The value does not have the shape that the rule was prepared for. -/
  | valueMismatch (expected found : String)
  /-- The collection has another element type than the rule was prepared for. -/
  | elementTypeMismatch (expected found : String)
  /-- A custom error type was never resolved to a constructor. -/
  | unresolvedErrorType (typeName : String)
  deriving DecidableEq

/-- The wording of a configuration error. For a pattern that does not compile, what stands behind
the colon is `Pattern.Fault.display`, a wording of this library. -/
def ConfigurationError.display : ConfigurationError → String
  | .missingBound bound => "interval bound '" ++ bound.name ++ "' is absent"
  | .incomparableBounds value bound =>
    "value of kind '" ++ value ++ "' cannot be compared with bound of kind '" ++ bound ++ "'"
  | .emptyPattern => "pattern is absent or empty"
  | .invalidPattern fault => "pattern does not compile: " ++ fault.display
  | .valueMismatch expected found =>
    "expected a value of kind '" ++ expected ++ "', found '" ++ found ++ "'"
  | .elementTypeMismatch expected found =>
    "collection element type '" ++ found ++ "' does not match bound element type '" ++
      expected ++ "'"
  | .unresolvedErrorType typeName =>
    "custom error type '" ++ typeName ++ "' has not been resolved"

/-- The failure of a check. -/
inductive Failure where
  /-- The value broke its rule. -/
  | violation (v : Violation)
  /-- The value broke its rule, and the annotation asks for a custom error type. -/
  | custom (e : CustomError)
  /-- The rule is misconfigured. -/
  | configuration (e : ConfigurationError)
  deriving DecidableEq

/-- The outcome of a check. -/
abbrev Outcome := Except Failure Unit

namespace Failure

/-- The wording of a failure. -/
def display : Failure → String
  | .violation v => v.display
  | .custom e => e.display
  | .configuration e => "invalid contract configuration: " ++ e.display

/-- What a failure names as its reasons, outermost first. -/
def reasons : Failure → List String
  | .violation _ => []
  | .custom e => [e.cause.display]
  | .configuration e => [e.display]

/-- Whether a value broke its rule. -/
def isBreach : Failure → Bool
  | .configuration _ => false
  | _ => true

/-- The parameter that a violation names. -/
def parameter? : Failure → Option String
  | .violation v => v.parameter
  | _ => none

end Failure

end Contracts
