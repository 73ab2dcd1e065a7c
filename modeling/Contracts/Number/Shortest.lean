import Contracts.Number.Binary64

/-!
# The shortest decimal of a binary64 number

Every finite number is the rounding of a whole interval of reals. Its shortest decimal is the
decimal with the fewest digits in that interval and, of those, the nearest to the number itself.
The search goes over decimal grids from coarse to fine: if a point of a grid lies in the
interval, then so does one of the two neighbours of the number on that grid, so testing the two
neighbours is enough, and seventeen digits always suffice.

Two layouts write the digits down: `positional` never uses an exponent, and `exponential` uses
one for numbers that are very large or very small.
-/

namespace Contracts

/-- A decimal, `coefficient · 10 ^ exponent`. -/
structure Decimal where
  coefficient : Nat
  exponent : Int
  deriving DecidableEq

namespace Dyadic

/-- The reals that round to a number, as numerators over one denominator. -/
structure Basin where
  low : Nat
  value : Nat
  high : Nat
  denominator : Nat
  /-- Whether the two ends belong to it, as they do for an even significand. -/
  closed : Bool

/-- Find the basin of a magnitude; the gap below a power of two is half as wide. -/
def basin (x : Dyadic) : Basin :=
  let unit := Nat.pow 2 x.scale
  let below := if x.significand = Nat.pow 2 52 ∧ x.scale ≠ 0 then 1 else 2
  { low := (4 * x.significand - below) * unit
    value := 4 * x.significand * unit
    high := (4 * x.significand + 2) * unit
    denominator := Nat.pow 2 1076
    closed := x.significand % 2 == 0 }

/-- Express a basin in multiples of `10 ^ exponent`. -/
def Basin.onGrid (b : Basin) (exponent : Int) : Basin :=
  if exponent < 0 then
    let power := Nat.pow 10 exponent.natAbs
    { b with low := b.low * power, value := b.value * power, high := b.high * power }
  else
    { b with denominator := b.denominator * Nat.pow 10 exponent.natAbs }

/-- Whether a multiple of the grid's step lies in the basin. -/
def Basin.holds (b : Basin) (multiple : Nat) : Bool :=
  let point := multiple * b.denominator
  if b.closed then b.low ≤ point && point ≤ b.high else b.low < point && point < b.high

/-- Choose the neighbour on the grid that lies in the basin, the nearer one if both do. -/
def Basin.neighbour? (b : Basin) : Option Nat :=
  let floor := b.value / b.denominator
  let rest := b.value % b.denominator
  match b.holds floor, b.holds (floor + 1) with
  | true, true =>
    some (if 2 * rest < b.denominator ∨ (2 * rest = b.denominator ∧ floor % 2 = 0) then floor
      else floor + 1)
  | true, false => some floor
  | false, true => some (floor + 1)
  | false, false => none

/-- The least `p` for which the magnitude lies below `10 ^ p`. -/
def magnitude (x : Dyadic) : Int :=
  let scaled := x.significand * Nat.pow 2 x.scale * Nat.pow 10 330 / Nat.pow 2 1074
  Int.ofNat (Nat.toDigits 10 scaled).length - 330

/-- Move the zeros at the end of a coefficient into the exponent. -/
def Decimal.trim (fuel : Nat) (d : Decimal) : Decimal :=
  match fuel with
  | 0 => d
  | fuel + 1 =>
    if d.coefficient % 10 = 0 ∧ d.coefficient ≠ 0 then
      Decimal.trim fuel ⟨d.coefficient / 10, d.exponent + 1⟩
    else d

/-- The shortest decimal of the magnitude; zero has the coefficient zero. -/
def shortest (x : Dyadic) : Decimal :=
  if x.significand = 0 then ⟨0, 0⟩
  else
    let b := x.basin
    let top := x.magnitude
    let hit := (List.range 17).findSome? fun places =>
      let exponent := top - Int.ofNat (places + 1)
      (b.onGrid exponent).neighbour?.map fun c => (⟨c, exponent⟩ : Decimal)
    match hit with
    | some d => Decimal.trim 20 d
    | none => ⟨x.significand, 0⟩

end Dyadic

namespace Decimal

/-- The digits of the coefficient. -/
def digits (d : Decimal) : List Char := Nat.toDigits 10 d.coefficient

/-- The number of digits before the point, less the number of zeros right after it. -/
def point (d : Decimal) : Int := Int.ofNat d.digits.length + d.exponent

/-- Write a decimal with all its places; `fraction` stands after a whole number. -/
def positional (d : Decimal) (fraction : List Char) : List Char :=
  if 0 ≤ d.exponent then
    d.digits ++ List.replicate d.exponent.natAbs '0' ++ fraction
  else if 0 < d.point then
    d.digits.take d.point.natAbs ++ '.' :: d.digits.drop d.point.natAbs
  else
    '0' :: '.' :: List.replicate d.point.natAbs '0' ++ d.digits

/-- Write a decimal with one digit before the point and a signed power of ten. -/
def exponential (d : Decimal) : List Char :=
  let fraction := match d.digits.drop 1 with
    | [] => []
    | rest => '.' :: rest
  let power := d.point - 1
  let sign := if power < 0 then '-' else '+'
  d.digits.take 1 ++ fraction ++ 'e' :: sign :: Nat.toDigits 10 power.natAbs

end Decimal

namespace Binary64

/-- The sign that stands before a magnitude. -/
def sign (negative : Bool) : List Char := if negative then ['-'] else []

/-- Write a number for reading: all places, never an exponent, no point after a whole number. -/
def display : Binary64 → String
  | .nan => "NaN"
  | .infinite negative => if negative then "-inf" else "inf"
  | .finite x => String.ofList (sign x.negative ++ x.shortest.positional [])

/-- Write a finite number for a document: a whole number keeps its `.0`, and an exponent takes
over below `1e-5` and from `1e16` on. Documents have no other numbers. -/
def document : Binary64 → String
  | .finite x =>
    let d := x.shortest
    let body :=
      if x.significand = 0 then ['0', '.', '0']
      else if -5 < d.point ∧ d.point ≤ 16 then d.positional ['.', '0']
      else d.exponential
    String.ofList (sign x.negative ++ body)
  | _ => "null"

end Binary64

end Contracts
