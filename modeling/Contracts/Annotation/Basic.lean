import Contracts.Rule.Interval
import Contracts.Rule.Pattern
import Contracts.Text.Quoted

/-!
# Annotations

An annotation puts one rule on a declaration and says how a breach is reported. What its
self-check or its first use works out is kept with it and never worked out again: the failure
policy, the check of a typed collection and the compiled pattern.
-/

namespace Contracts

/-- The interval of a rule; an absent bound is null. -/
structure IntervalRule where
  min : Value
  minMode : BoundaryMode
  max : Value
  maxMode : BoundaryMode

/-- The bounds of an interval rule. -/
def IntervalRule.bounds (r : IntervalRule) : Bounds :=
  ⟨r.min.present, r.minMode, r.max.present, r.maxMode⟩

/-- The pattern of a rule. -/
structure PatternRule where
  pattern : String
  options : PatternOptions
  deriving DecidableEq

/-- Compile the pattern of a rule. -/
def PatternRule.compile (r : PatternRule) : Except ConfigurationError Regex :=
  r.options.compile r.pattern

/-- The rule of an annotation. -/
inductive AnnotationRule where
  /-- The value is there. -/
  | notNull
  /-- The text or collection has an element. -/
  | notEmpty
  /-- The value lies in an interval. -/
  | interval (r : IntervalRule)
  /-- The text holds a match of a pattern. -/
  | pattern (r : PatternRule)

namespace AnnotationRule

/-- The name of a rule. -/
def name : AnnotationRule → String
  | .notNull => "NotNull"
  | .notEmpty => "NotEmpty"
  | .interval _ => "Interval"
  | .pattern _ => "Pattern"

/-- The name of a rule with its configuration. -/
def describe : AnnotationRule → String
  | .interval r => "Interval(" ++ r.bounds.display ++ ")"
  | .pattern r => "Pattern(" ++ Text.quoted r.pattern ++ ")"
  | rule => rule.name

/-- Where messages about a rule come from. -/
def source (rule : AnnotationRule) : String := "warden_weave::validator::" ++ rule.name

end AnnotationRule

/-- How a breach is reported: by which error type, and with which message. -/
structure FailureConfig where
  errorType : Option String := none
  message : Option String := none
  deriving DecidableEq

/-- A check on the number of elements of collections of one element type. -/
structure SpecializedCheck where
  element : String
  policy : FailurePolicy

/-- Check a value; only null and collections of the element type have the right shape. -/
def SpecializedCheck.check (s : SpecializedCheck) (value : Value) (parameter : String) : Outcome :=
  match value with
  | .null => .ok ()
  | .collection element items =>
    if element = s.element then
      Rule.notEmpty (some items.length) parameter (s.policy.report Rule.notEmptyKind parameter)
    else .error (.configuration (.elementTypeMismatch s.element element))
  | other =>
    .error (.configuration (.valueMismatch ("collection of " ++ s.element) other.kind))

/-- A rule on a declaration, with what has been worked out so far. -/
structure Annotation where
  rule : AnnotationRule
  failure : FailureConfig := {}
  /-- The form of failures, once it is known. -/
  policy? : Option FailurePolicy := none
  /-- The check of typed collections, once an element type is known. -/
  specialization? : Option SpecializedCheck := none
  /-- The compiled pattern, once it is compiled. -/
  regex? : Option Regex := none

namespace Annotation

/-- Replace the message; the policy has to be worked out again. -/
def withMessage (a : Annotation) (text : String) : Annotation :=
  { a with failure := { a.failure with message := some text }, policy? := none }

/-- Replace the error type; the policy has to be worked out again. -/
def withErrorType (a : Annotation) (type : String) : Annotation :=
  { a with failure := { a.failure with errorType := some type }, policy? := none }

end Annotation

end Contracts
