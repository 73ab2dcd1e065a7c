/-!
# Runs of code points

A set of code points is a table of runs `(first, last, step)` in ascending order: the code points
from `first` to `last` that are a multiple of `step` away from `first`. A step of two is how the
letters of the two cases alternate in many scripts.
-/

namespace Contracts.Unicode

/-- A set of code points as runs in ascending order. -/
abbrev Runs := List (Nat × Nat × Nat)

namespace Runs

/-- Whether a code point belongs to a set; the runs behind the code point are not looked at. -/
def holds : Runs → Nat → Bool
  | [], _ => false
  | (first, last, step) :: rest, c =>
    if c < first then false
    else (c ≤ last && (c - first) % step == 0) || holds rest c

/-- The code points of a run. -/
def members : Nat × Nat × Nat → List Nat
  | (first, last, step) =>
    (List.range ((last - first) / step + 1)).map fun i => first + i * step

end Runs

end Contracts.Unicode
