import Contracts.Annotation.Judgement
import Contracts.Declaration.Catalogue
import Contracts.Declaration.Member
import Contracts.Diagnostic

/-!
# Self-checks

Before an annotation is woven it is checked against every site it would guard: its error type
must be usable, and the type of the site must suit its rule. Problems are written as messages of
error severity. A self-check leaves behind what judging values will need.
-/

namespace Contracts

/-- The codes of the messages that self-checks write. -/
inductive Problem where
  | typeNotNullable
  | typeNotCountable
  | conflictingElementType
  | typeNotOrdered
  | missingBound
  | boundTypeMismatch
  | typeNotText
  | emptyPattern
  | invalidPattern
  | invalidErrorType
  | errorTypeNotConstructible
  deriving DecidableEq

/-- The code of a problem. -/
def Problem.code : Problem → String
  | .typeNotNullable => "not_null.type_not_nullable"
  | .typeNotCountable => "not_empty.type_not_supported"
  | .conflictingElementType => "not_empty.conflicting_element_type"
  | .typeNotOrdered => "interval.type_not_supported"
  | .missingBound => "interval.missing_bound"
  | .boundTypeMismatch => "interval.bound_type_mismatch"
  | .typeNotText => "pattern.type_not_supported"
  | .emptyPattern => "pattern.empty_pattern"
  | .invalidPattern => "pattern.invalid_pattern"
  | .invalidErrorType => "failure.invalid_error_type"
  | .errorTypeNotConstructible => "failure.error_type_not_constructible"

namespace Annotation

/-- A message of an annotation about a problem. -/
def complain (a : Annotation) (problem : Problem) (text : String) : Entry :=
  .message ⟨.error, problem.code, text, a.rule.source⟩

/-- Work out the policy: without an error type from the message alone, else from the constructor
of the error type, if the type can be used. -/
def resolvePolicy (a : Annotation) (c : Catalogue) : Trace × Annotation :=
  match a.failure.errorType with
  | none => ([], a.settlePolicy)
  | some type =>
    if a.policy?.isSome then ([], a)
    else if !c.isErrorType type then
      ([a.complain .invalidErrorType ("The type '" ++ type ++ "' is not an error type.")], a)
    else match c.errorConstructor? type with
      | none =>
        ([a.complain .errorTypeNotConstructible
          ("The error type '" ++ type ++ "' cannot be constructed from a message.")], a)
      | some constructor =>
        ([.event ⟨.debug, "warden_weave::validator", "resolved custom error type",
          [("error_type", .text type), ("rule", .word a.rule.name)]⟩],
          { a with policy? := some (.resolve (some constructor) a.failure.message) })

/-- Bind the annotation to an element type, or check that it is bound to this one. -/
def specialize (a : Annotation) (element : String) : Trace × Annotation :=
  match a.currentPolicy with
  | .error _ => ([], a)
  | .ok policy =>
    match a.specialization? with
    | none =>
      ([.event ⟨.debug, "warden_weave::specialize", "building specialized not-empty check",
        [("element", .text element)]⟩],
        { a.settlePolicy with specialization? := some ⟨element, policy⟩ })
    | some s =>
      if s.element = element then ([], a.settlePolicy)
      else
        ([a.complain .conflictingElementType
          ("The annotation is bound to elements of type '" ++ s.element ++
            "' and cannot also check '" ++ element ++ "'.")], a.settlePolicy)

/-- What is wrong with the bounds of an interval. -/
def boundProblems (a : Annotation) (r : IntervalRule) : Trace :=
  match r.min.present, r.max.present with
  | none, _ => [a.complain .missingBound "The interval bound 'min' is absent."]
  | some _, none => [a.complain .missingBound "The interval bound 'max' is absent."]
  | some min, some max =>
    if min.isComparableWith max then []
    else
      [a.complain .boundTypeMismatch
        ("The interval bounds '" ++ min.display ++ "' (" ++ min.kind ++ ") and '" ++
          max.display ++ "' (" ++ max.kind ++ ") cannot be compared.")]

/-- Compile the pattern, or say why it does not compile. -/
def preparePattern (a : Annotation) (r : PatternRule) : Trace × Annotation :=
  match a.regex? with
  | some _ => ([], a)
  | none =>
    match r.compile with
    | .ok regex => ([], { a with regex? := some regex })
    | .error .emptyPattern => ([a.complain .emptyPattern "The pattern is empty."], a)
    | .error e => ([a.complain .invalidPattern (e.display ++ ".")], a)

/-- Check the rule against a declared type. -/
def checkType (a : Annotation) (site : Site) (type : String) (c : Catalogue) :
    Trace × Annotation :=
  let of := "The type '" ++ type ++ "' of " ++ site.display
  match a.rule with
  | .notNull =>
    (if c.isNullable type then [] else [a.complain .typeNotNullable (of ++ " is not nullable.")],
      a)
  | .notEmpty =>
    if c.hasCapability type .text || c.hasCapability type .countable then ([], a)
    else match c.elementTypeOf type with
      | some element => a.specialize element
      | none => ([a.complain .typeNotCountable (of ++ " is neither text nor a collection.")], a)
  | .interval r =>
    ((if c.hasCapability type .ordered then []
      else [a.complain .typeNotOrdered (of ++ " has no natural ordering.")]) ++ a.boundProblems r,
      a)
  | .pattern r =>
    let (trace, a') := a.preparePattern r
    ((if c.hasCapability type .text then []
      else [a.complain .typeNotText (of ++ " is not text.")]) ++ trace, a')

/-- Check an annotation at a site. A type that is not declared is nothing for the rule to look
at. -/
def selfCheck (a : Annotation) (site : Site) (c : Catalogue) : Trace × Annotation :=
  let (trace, a') := a.resolvePolicy c
  match site.declaredType? with
  | none => (trace, a')
  | some type =>
    match c.decl? type with
    | none => (trace, a')
    | some _ =>
      let (more, a'') := a'.checkType site type c
      (trace ++ more, a'')

end Annotation

end Contracts
