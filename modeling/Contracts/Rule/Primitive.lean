import Contracts.Rule.Interval
import Contracts.Rule.Pattern

/-!
# Rules on their own

A rule may be asked without an annotation. It is given what it looks at, the parameter, and a way to
make a failure of the rule's own text. Making a failure may be an action, which is taken for a value
that breaks the rule and for no other. In two further forms a rule makes the failure itself: a
violation of the rule's own kind, with the rule's own text or with a given one.
-/

namespace Contracts.Rule

/-- A rule with what it looks at. -/
inductive Primitive where
  /-- The value is there. -/
  | notNull (value : Option Value)
  /-- What is counted, if it is there, has an element. -/
  | notEmpty (count : Option Nat)
  /-- The value, if it is there, lies in an interval. -/
  | interval (value : Option Value) (bounds : Bounds)
  /-- The text, if it is there, holds a match of a compiled pattern. -/
  | pattern (value : Option String) (regex : Option Regex)
  /-- The text, if it is there, holds a match of a pattern that is yet to be compiled. -/
  | patternSource (value source : Option String) (options : PatternOptions)

namespace Primitive

/-- The kind of the violation of a rule. -/
def kind : Primitive → ViolationKind
  | .notNull _ => notNullKind
  | .notEmpty _ => notEmptyKind
  | .interval _ _ => intervalKind
  | .pattern _ _ => patternKind
  | .patternSource _ _ _ => patternKind

/-- The text of the violation of a rule. -/
def ownText (p : Primitive) (parameter : String) : String :=
  match p with
  | .notNull _ => notNullText parameter
  | .notEmpty _ => notEmptyText parameter
  | .interval _ bounds => intervalText parameter bounds
  | .pattern _ _ => patternText parameter
  | .patternSource _ _ _ => patternText parameter

/-- Check a rule. -/
def check (p : Primitive) (parameter : String) (report : Report) : Outcome :=
  match p with
  | .notNull value => Rule.notNull value parameter report
  | .notEmpty count => Rule.notEmpty count parameter report
  | .interval value bounds => Rule.interval value bounds parameter report
  | .pattern value regex => Rule.pattern value regex parameter report
  | .patternSource value source options =>
    Rule.patternSource value source options parameter report

/-- Check a rule in its default form. -/
def checkDefault (p : Primitive) (parameter : String) : Outcome :=
  p.check parameter fun ownText => .ofParameter p.kind parameter ownText

/-- Check a rule and report a breach with a given text. -/
def checkWithMessage (p : Primitive) (parameter message : String) : Outcome :=
  p.check parameter fun _ => .ofParameter p.kind parameter message

section Actions

variable {m : Type → Type} [Monad m]

/-- Search a present text for a compiled pattern. -/
def patternBy (value : Option String) (regex : Option Regex) (parameter : String)
    (create : String → m Failure) : m Outcome :=
  match regex with
  | none => pure (.error (.configuration .emptyPattern))
  | some regex =>
    match value with
    | none => pure (.ok ())
    | some text =>
      if regex.isMatch text then pure (.ok ())
      else do
        let failure ← create (patternText parameter)
        return .error failure

/-- Check a rule, with an action to make a failure. -/
def checkBy (p : Primitive) (parameter : String) (create : String → m Failure) : m Outcome :=
  match p with
  | .notNull (some _) => pure (.ok ())
  | .notNull none => do
    let failure ← create (notNullText parameter)
    return .error failure
  | .notEmpty (some 0) => do
    let failure ← create (notEmptyText parameter)
    return .error failure
  | .notEmpty _ => pure (.ok ())
  | .interval value bounds =>
    match bounds.require with
    | .error e => pure (.error (.configuration e))
    | .ok (min, max) =>
      match value with
      | none => pure (.ok ())
      | some v =>
        if bounds.encloses min max v then pure (.ok ())
        else do
          let failure ← create (intervalText parameter bounds)
          return .error (withInterval failure min max v)
  | .pattern value regex => patternBy value regex parameter create
  | .patternSource _ none _ => pure (.error (.configuration .emptyPattern))
  | .patternSource value (some source) options =>
    match options.compile source with
    | .error e => pure (.error (.configuration e))
    | .ok regex => patternBy value (some regex) parameter create

end Actions

/-- Check a rule, and list the texts of which failures were made. -/
def checkRecording (p : Primitive) (parameter : String) (report : Report) :
    Outcome × List String :=
  let create (ownText : String) : StateM (List String) Failure := do
    modify (· ++ [ownText])
    return report ownText
  (p.checkBy parameter create).run []

end Primitive

end Contracts.Rule
