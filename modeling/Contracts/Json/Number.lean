import Contracts.Json.Basic

/-!
# Numbers in JSON text

A number is an optional minus sign, digits without a needless zero in front, an optional
fraction and an optional exponent. A number without fraction and exponent is an integer while it
fits, save for `-0`, which only a binary64 number can hold.

The digits before the exponent are gathered into one coefficient below `2 ^ 64`. Digits after
the last one that fits count only for the power of ten when they stand before the point, and not
at all after it. The coefficient and the power of ten are then brought together by one rounded
multiplication or division, so that numbers of up to nineteen digits come out as written. A
number that is too large for binary64 is well formed, but cannot be read.
-/

namespace Contracts.Json.Number

/-- The first part of a text that holds digits only. -/
def digits (cs : List Char) : List Char := cs.takeWhile Char.isDigit

/-- Digits gathered into a coefficient below `2 ^ 64`. -/
structure Gathered where
  coefficient : Nat
  /-- How many digits the coefficient holds. -/
  taken : Nat
  /-- How many digits came after the first one that did not fit. -/
  left : Nat

/-- Gather digits onto a coefficient while they fit. -/
def gather (start : Nat) (cs : List Char) : Gathered :=
  cs.foldl (fun g c =>
    let next := g.coefficient * 10 + (c.toNat - '0'.toNat)
    if g.left = 0 ∧ next < 18446744073709551616 then
      { g with coefficient := next, taken := g.taken + 1 }
    else { g with left := g.left + 1 }) ⟨start, 0, 0⟩

/-- Go on with a finite number. -/
def onFinite {α : Type} (x : Binary64) (otherwise : α) (next : Dyadic → α) : α :=
  match x with
  | .finite x => next x
  | _ => otherwise

/-- The power of ten as a finite number; powers up to 308 are. -/
def power (exponent : Nat) : Dyadic :=
  onFinite (Binary64.ofQuotient false (Nat.pow 10 exponent) 1)
    ⟨false, 0, 0, Dyadic.canonical_zero⟩ id

/-- Divide by ten to the given power, in steps of at most 308. -/
def divide (fuel : Nat) (x : Dyadic) (exponent : Nat) : Binary64 :=
  match fuel with
  | 0 => .finite ⟨x.negative, 0, 0, Dyadic.canonical_zero⟩
  | fuel + 1 =>
    if x.significand = 0 then .finite x
    else if exponent ≤ 308 then Binary64.scaleDown x (power exponent)
    else
      let y := Binary64.scaleDown x (power 308)
      onFinite y y fun y => divide fuel y (exponent - 308)

/-- Bring a coefficient and a power of ten together. -/
def combine (negative : Bool) (coefficient : Nat) (exponent : Int) : Json :=
  onFinite (Binary64.ofQuotient negative coefficient 1) (.unreadable true) fun x =>
    if 0 ≤ exponent then
      if x.significand = 0 then .real (.finite x)
      else if exponent.natAbs ≤ 308 then
        let y := Binary64.scaleUp x (power exponent.natAbs)
        if y.isFinite then .real y else .unreadable true
      else .unreadable true
    else .real (divide 4 x exponent.natAbs)

/-- The number without fraction and exponent, an integer if it can be one. -/
def whole (negative : Bool) (coefficient : Nat) : Json :=
  if negative then
    if coefficient = 0 ∨ 9223372036854775808 < coefficient then
      .real (Binary64.ofQuotient true coefficient 1)
    else .integer (-Int.ofNat coefficient)
  else .integer coefficient

/-- A number and how many characters it takes; none if the text does not start with one. -/
def read (text : List Char) : Option (Json × Nat) := do
  let negative := text.head? == some '-'
  let body := if negative then text.drop 1 else text
  let front := digits body
  guard (front ≠ [])
  guard (front.head? ≠ some '0' ∨ front.length = 1)
  let lead := gather 0 front
  let rest := body.drop front.length
  let used := (if negative then 1 else 0) + front.length
  -- the fraction
  let hasFraction := rest.head? == some '.'
  let fraction := if hasFraction then digits (rest.drop 1) else []
  guard (!hasFraction || fraction ≠ [])
  let tail := gather lead.coefficient fraction
  let exponent := Int.ofNat lead.left - Int.ofNat tail.taken
  let rest := if hasFraction then rest.drop (1 + fraction.length) else rest
  let used := if hasFraction then used + 1 + fraction.length else used
  -- the exponent
  if rest.head? == some 'e' || rest.head? == some 'E' then
    let rest := rest.drop 1
    let signed := rest.head? == some '+' || rest.head? == some '-'
    let below := rest.head? == some '-'
    let size := digits (if signed then rest.drop 1 else rest)
    guard (size ≠ [])
    let used := used + 1 + (if signed then 1 else 0) + size.length
    let shift := (size.foldl (fun n c => n * 10 + (c.toNat - '0'.toNat)) 0 : Nat)
    -- a shift this large leaves zero or no finite number at all, whatever the digits
    if shift ≥ 2147483648 then
      if tail.coefficient = 0 ∨ below then some (.real (.ofParts negative 0 0), used)
      else some (.unreadable true, used)
    else
      let exponent := if below then exponent - Int.ofNat shift else exponent + Int.ofNat shift
      some (combine negative tail.coefficient exponent, used)
  else if hasFraction || lead.left ≠ 0 then
    some (combine negative tail.coefficient exponent, used)
  else some (whole negative lead.coefficient, used)

end Contracts.Json.Number
