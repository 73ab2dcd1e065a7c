import Contracts.Annotation.Basic

/-!
# Judging values

`judge` says whether a value keeps the rule of an annotation, and `settle` is the annotation
afterwards: judging works out what does not depend on a self-check, and what it works out does
not depend on the value.
-/

namespace Contracts

/-- Check a value against an interval rule. The bounds must be there, and a present value must be
comparable with both. -/
def IntervalRule.check (r : IntervalRule) (value : Value) (parameter : String)
    (policy : FailurePolicy) : Outcome :=
  match r.bounds.require with
  | .error e => .error (.configuration e)
  | .ok (min, max) =>
    let alien := match value.present with
      | none => none
      | some v => [min, max].find? fun bound => !v.isComparableWith bound
    match alien with
    | some bound => .error (.configuration (.incomparableBounds value.kind bound.kind))
    | none =>
      Rule.interval value.present r.bounds parameter (policy.report Rule.intervalKind parameter)

namespace Annotation

/-- The policy as it is known, or as it follows from the message when no error type has to be
resolved. -/
def currentPolicy (a : Annotation) : Except ConfigurationError FailurePolicy :=
  match a.policy? with
  | some policy => .ok policy
  | none =>
    match a.failure.errorType with
    | some type => .error (.unresolvedErrorType type)
    | none => .ok (.resolve none a.failure.message)

/-- The compiled pattern as it is known, or else compiled now. -/
def currentRegex (a : Annotation) (r : PatternRule) : Except ConfigurationError Regex :=
  match a.regex? with
  | some regex => .ok regex
  | none => r.compile

/-- Check the number of elements of a value; a typed collection is left to the specialized check
if there is one. -/
def judgeNotEmpty (a : Annotation) (value : Value) (parameter : String)
    (policy : FailurePolicy) : Outcome :=
  let report := policy.report Rule.notEmptyKind parameter
  match value with
  | .null => .ok ()
  | .collection element items =>
    match a.specialization? with
    | some s => s.check (.collection element items) parameter
    | none => Rule.notEmpty (some items.length) parameter report
  | .text s => Rule.notEmpty (some s.utf8ByteSize) parameter report
  | .list items => Rule.notEmpty (some items.length) parameter report
  | .map entries => Rule.notEmpty (some entries.length) parameter report
  | other => .error (.configuration (.valueMismatch "text or collection" other.kind))

/-- Search a value for the pattern. -/
def judgePattern (a : Annotation) (r : PatternRule) (value : Value) (parameter : String)
    (policy : FailurePolicy) : Outcome :=
  match a.currentRegex r with
  | .error e => .error (.configuration e)
  | .ok regex =>
    let report := policy.report Rule.patternKind parameter
    match value with
    | .null => Rule.pattern none (some regex) parameter report
    | .text s => Rule.pattern (some s) (some regex) parameter report
    | other => .error (.configuration (.valueMismatch "text" other.kind))

/-- Judge a value. -/
def judge (a : Annotation) (value : Value) (parameter : String) : Outcome :=
  match a.currentPolicy with
  | .error e => .error (.configuration e)
  | .ok policy =>
    match a.rule with
    | .notNull => Rule.notNull value.present parameter (policy.report Rule.notNullKind parameter)
    | .notEmpty => a.judgeNotEmpty value parameter policy
    | .interval r => r.check value parameter policy
    | .pattern r => a.judgePattern r value parameter policy

/-- Keep the policy if it is known now. -/
def settlePolicy (a : Annotation) : Annotation := { a with policy? := a.currentPolicy.toOption }

/-- Keep the compiled pattern if there is one now. -/
def settleRegex (a : Annotation) : Annotation :=
  match a.rule with
  | .pattern r => { a with regex? := (a.currentRegex r).toOption }
  | _ => a

/-- The annotation after judging a value. -/
def settle (a : Annotation) : Annotation :=
  match a.currentPolicy with
  | .error _ => a
  | .ok _ => a.settlePolicy.settleRegex

end Annotation

end Contracts
