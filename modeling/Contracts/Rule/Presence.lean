import Contracts.Failure.Policy
import Contracts.Value.Basic

/-!
# Rules on presence

`notNull` asks that a value is there at all; `notEmpty` asks that a countable value that is there
has an element. Each rule is given the way to report a breach, which it calls with its own text.
-/

namespace Contracts.Rule

/-- How a rule reports a breach, given its own text. -/
abbrev Report := String → Failure

/-- The kind of an absent value's violation. -/
def notNullKind : ViolationKind := .argumentNull

/-- The text of an absent value's violation. -/
def notNullText (parameter : String) : String := "The parameter '" ++ parameter ++ "' is null."

/-- Fail when the value is absent. -/
def notNull (value : Option Value) (parameter : String) (report : Report) : Outcome :=
  match value with
  | some _ => .ok ()
  | none => .error (report (notNullText parameter))

/-- The kind of an empty value's violation. -/
def notEmptyKind : ViolationKind := .argument

/-- The text of an empty value's violation. -/
def notEmptyText (parameter : String) : String := "The parameter '" ++ parameter ++ "' is empty"

/-- Fail when a present value has no element; an absent one, without a count, passes. -/
def notEmpty (count : Option Nat) (parameter : String) (report : Report) : Outcome :=
  match count with
  | some 0 => .error (report (notEmptyText parameter))
  | _ => .ok ()

end Contracts.Rule
