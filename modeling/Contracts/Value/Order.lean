import Contracts.Value.Basic

/-!
# Ordering and equality of values

Values of one kind of scalar are ordered within the kind, and integers and binary64 numbers are
ordered among each other. All other pairs are incomparable. Neither an integer nor a binary64 number
is rounded for a comparison: a number that is beyond the integers decides alone, and the fraction of
any other one counts when the whole parts are equal.
-/

namespace Contracts.Value

/-- Order an integer and a binary64 number. -/
def compareIntFloat (i : Int64) (x : Binary64) : Option Ordering :=
  if x = .nan then none
  else if !x.precedes (.int64Limit false) then some .lt
  else if x.precedes (.int64Limit true) then some .gt
  else
    let whole := x.truncate
    some ((compare i.toInt whole.toInt64.toInt).then
      (if whole.precedes x then .lt else if x.precedes whole then .gt else .eq))

/-- The natural order of two values, if they have one. -/
def compare? : Value → Value → Option Ordering
  | .bool a, .bool b => some (compare a b)
  | .int a, .int b => some (compare a.toInt b.toInt)
  | .float a, .float b => a.compare? b
  | .int a, .float b => compareIntFloat a b
  | .float a, .int b => (compareIntFloat b a).map Ordering.swap
  | .text a, .text b => some (compare a b)
  | _, _ => none

/-- The kinds within which values are ordered. -/
inductive Scale where
  | truth
  | number
  | text
  deriving DecidableEq

/-- The scale of a value. -/
def scale? : Value → Option Scale
  | .bool _ => some .truth
  | .int _ => some .number
  | .float _ => some .number
  | .text _ => some .text
  | _ => none

/-- Whether the kinds of two values are ordered among each other, whatever the values are. -/
def isComparableWith (a b : Value) : Bool :=
  match a.scale?, b.scale? with
  | some s, some t => s == t
  | _, _ => false

mutual

/-- Equality of shape and content; entries of maps count without regard to order, and binary64
numbers are equal as comparison sees them. -/
def same : Value → Value → Bool
  | .null, .null => true
  | .bool a, .bool b => a == b
  | .int a, .int b => a == b
  | .float a, .float b => a.same b
  | .text a, .text b => a == b
  | .list a, .list b => sameItems a b
  | .collection e a, .collection f b => e == f && sameItems a b
  | .map a, .map b => a.length == b.length && sameEntries a b
  | _, _ => false

/-- Equality of two lists, item by item. -/
def sameItems : List Value → List Value → Bool
  | [], [] => true
  | a :: as, b :: bs => same a b && sameItems as bs
  | _, _ => false

/-- Whether every entry of the first list is found in the second. -/
def sameEntries : List (String × Value) → List (String × Value) → Bool
  | [], _ => true
  | (name, a) :: rest, entries =>
    (match Entries.get? entries name with
      | some b => same a b
      | none => false) && sameEntries rest entries

end

/-- Strictly before. -/
def precedes (a b : Value) : Bool := a.compare? b == some .lt

/-- Strictly after. -/
def follows (a b : Value) : Bool := a.compare? b == some .gt

/-- Before or at the same place. -/
def atMost (a b : Value) : Bool := a.precedes b || a.compare? b == some .eq

/-- After or at the same place. -/
def atLeast (a b : Value) : Bool := a.follows b || a.compare? b == some .eq

end Contracts.Value
