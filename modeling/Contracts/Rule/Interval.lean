import Contracts.Rule.Presence
import Contracts.Value.Order

/-!
# The interval rule

An interval has a lower and an upper bound, each of which belongs to it or not. A bound may be
absent, which no value can make up for: every check against such an interval fails as
misconfigured, before the value is looked at.
-/

namespace Contracts

/-- Whether a bound belongs to its interval. -/
inductive BoundaryMode where
  | inclusive
  | exclusive
  deriving DecidableEq

/-- Whether a value that compares so with a lower bound lies inside. -/
def BoundaryMode.holds (mode : BoundaryMode) : Option Ordering → Bool
  | some .gt => true
  | some .eq => mode == .inclusive
  | _ => false

/-- The bounds of an interval, either of which may be absent. -/
structure Bounds where
  min : Option Value
  minMode : BoundaryMode
  max : Option Value
  maxMode : BoundaryMode

namespace Bounds

/-- The interval from `min` to `max` with both bounds in it. -/
def inclusive (min max : Value) : Bounds := ⟨some min, .inclusive, some max, .inclusive⟩

/-- The interval from `min` to `max` with neither bound in it. -/
def exclusive (min max : Value) : Bounds := ⟨some min, .exclusive, some max, .exclusive⟩

/-- Both bounds, or the error that names the absent one, the lower one first. -/
def require (b : Bounds) : Except ConfigurationError (Value × Value) :=
  match b.min, b.max with
  | none, _ => .error (.missingBound .min)
  | some _, none => .error (.missingBound .max)
  | some min, some max => .ok (min, max)

/-- Whether a value lies between two bounds; what cannot be compared lies outside. -/
def encloses (b : Bounds) (min max value : Value) : Bool :=
  b.minMode.holds (value.compare? min) && b.maxMode.holds ((value.compare? max).map Ordering.swap)

/-- Whether a value lies inside the interval. -/
def contains (b : Bounds) (value : Value) : Except ConfigurationError Bool :=
  match b.require with
  | .error e => .error e
  | .ok (min, max) => .ok (b.encloses min max value)

/-- Write a bound, or a question mark for an absent one. -/
def displayBound : Option Value → String
  | some v => v.display
  | none => "?"

/-- Write the bounds between brackets that turn away from a bound outside the interval. -/
def display (b : Bounds) : String :=
  let opening := match b.minMode with
    | .inclusive => "["
    | .exclusive => "]"
  let closing := match b.maxMode with
    | .inclusive => "]"
    | .exclusive => "["
  opening ++ displayBound b.min ++ ", " ++ displayBound b.max ++ closing

end Bounds

namespace Rule

/-- The kind of the violation of an interval. -/
def intervalKind : ViolationKind := .argumentOutOfRange

/-- The text of the violation of an interval. -/
def intervalText (parameter : String) (bounds : Bounds) : String :=
  "The parameter '" ++ parameter ++ "' must be in the interval " ++ bounds.display

/-- Add the bounds and the value to a violation; another failure stays as it is. -/
def withInterval (failure : Failure) (min max value : Value) : Failure :=
  match failure with
  | .violation v =>
    .violation { v with
      details := v.details ++
        [("min", min.display), ("max", max.display), ("actual", value.display)] }
  | other => other

/-- Fail when a present value lies outside the interval. -/
def interval (value : Option Value) (bounds : Bounds) (parameter : String) (report : Report) :
    Outcome :=
  match bounds.require with
  | .error e => .error (.configuration e)
  | .ok (min, max) =>
    match value with
    | none => .ok ()
    | some v =>
      if bounds.encloses min max v then .ok ()
      else .error (withInterval (report (intervalText parameter bounds)) min max v)

end Rule

end Contracts
