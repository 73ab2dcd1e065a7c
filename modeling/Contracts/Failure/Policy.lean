import Contracts.Failure.Basic

/-!
# Failure policies

A policy decides the form in which a broken rule is reported. A custom error type goes before a
custom message, and a custom message before the rule's own text.
-/

namespace Contracts

/-- A named way to build an error from a message. -/
structure ErrorConstructor where
  typeName : String
  build : String → Cause

namespace ErrorConstructor

/-- Build the error of a message. -/
def construct (c : ErrorConstructor) (message : String) : CustomError :=
  ⟨c.typeName, c.build message⟩

/-- The generic constructor of a declared error type. -/
def host (typeName : String) : ErrorConstructor := ⟨typeName, .host typeName⟩

/-- A constructor whose errors say a fixed text and then the message. -/
def announcing (typeName opening : String) : ErrorConstructor :=
  ⟨typeName, fun message => .custom (opening ++ message)⟩

end ErrorConstructor

/-- The form of a failure. -/
inductive FailurePolicy where
  /-- The rule's own kind and text. -/
  | standard
  /-- The rule's own kind with another text. -/
  | message (text : String)
  /-- A custom error, built from the given text or else from the rule's own. -/
  | custom (constructor : ErrorConstructor) (text : Option String)

/-- A violation of a parameter. -/
def Failure.ofParameter (kind : ViolationKind) (parameter message : String) : Failure :=
  .violation ⟨kind, message, some parameter, []⟩

namespace FailurePolicy

/-- The policy of a configured pair of error type and message. -/
def resolve (constructor : Option ErrorConstructor) (text : Option String) : FailurePolicy :=
  match constructor, text with
  | some c, text => .custom c text
  | none, some text => .message text
  | none, none => .standard

/-- Report a broken rule, given the rule's own kind, the parameter and the rule's own text. -/
def report (policy : FailurePolicy) (kind : ViolationKind) (parameter : String)
    (ownText : String) : Failure :=
  match policy with
  | .standard => .ofParameter kind parameter ownText
  | .message text => .ofParameter kind parameter text
  | .custom c text => .custom (c.construct (text.getD ownText))

end FailurePolicy

end Contracts
