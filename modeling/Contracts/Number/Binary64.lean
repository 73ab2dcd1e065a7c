/-!
# Binary64 numbers

A binary64 number is held as what it denotes: no number at all, one of the two infinities, or
a finite number `± significand · 2 ^ scale / 2 ^ 1074`. Every finite number therefore has the
common denominator `2 ^ 1074`, and comparing two of them, or one of them with an integer, is a
comparison of two integers: nothing is rounded on the way.

Rounding happens in one place, `Binary64.ofQuotient`, which takes an exact quotient to the
nearest number, a tie going to the even significand. Cutting a fraction off is exact: what is left
of a number is a number again.
-/

namespace Contracts

/-- A finite binary64 number, `± significand · 2 ^ scale / 2 ^ 1074` in its only canonical form. -/
structure Dyadic where
  /-- Whether the sign is negative; zero has both signs. -/
  negative : Bool
  /-- The significand. -/
  significand : Nat
  /-- The power of two above the smallest positive number. -/
  scale : Nat
  /-- The significand fills its width unless the scale is the smallest one. -/
  canonical : significand < Nat.pow 2 53 ∧ scale ≤ 2045 ∧ (Nat.pow 2 52 ≤ significand ∨ scale = 0)
  deriving DecidableEq

/-- A binary64 number. -/
inductive Binary64 where
  /-- No number. -/
  | nan
  /-- Beyond all finite numbers, above or below. -/
  | infinite (negative : Bool)
  /-- An exact finite number. -/
  | finite (x : Dyadic)
  deriving DecidableEq

namespace Dyadic

/-- The number of units of `2 ^ (-1074)` that the number denotes. -/
def units (x : Dyadic) : Int :=
  let size : Int := Int.ofNat (x.significand * Nat.pow 2 x.scale)
  if x.negative then -size else size

/-- Zero is in its canonical form. -/
theorem canonical_zero : 0 < Nat.pow 2 53 ∧ 0 ≤ 2045 ∧ (Nat.pow 2 52 ≤ 0 ∨ 0 = 0) := by decide

/-- A significand of full width keeps its width when the digits below the point are cut off, unless
all of its digits are below the point. -/
theorem pow_le_div_mul {significand digits : Nat} (hfull : Nat.pow 2 52 ≤ significand)
    (hwidth : significand < Nat.pow 2 53) (hwhole : Nat.pow 2 digits ≤ significand) :
    Nat.pow 2 52 ≤ significand / Nat.pow 2 digits * Nat.pow 2 digits := by
  have hdigits : digits < 53 :=
    (Nat.pow_lt_pow_iff_right (by decide)).mp (Nat.lt_of_le_of_lt hwhole hwidth)
  have hsplit : Nat.pow 2 52 = Nat.pow 2 (52 - digits) * Nat.pow 2 digits := by
    have hsum : 52 - digits + digits = 52 := Nat.sub_add_cancel (Nat.le_of_lt_succ hdigits)
    calc
      Nat.pow 2 52 = Nat.pow 2 (52 - digits + digits) := by rw [hsum]
      _ = Nat.pow 2 (52 - digits) * Nat.pow 2 digits := Nat.pow_add 2 (52 - digits) digits
  have hquotient : Nat.pow 2 (52 - digits) ≤ significand / Nat.pow 2 digits :=
    (Nat.le_div_iff_mul_le (Nat.pow_pos (by decide))).mpr (hsplit ▸ hfull)
  rw [hsplit]
  exact Nat.mul_le_mul_right _ hquotient

/-- The number without its fraction. -/
def truncate (x : Dyadic) : Dyadic :=
  -- the digits of the significand that are below the point
  let digits := 1074 - x.scale
  if h : x.significand < Nat.pow 2 digits then ⟨x.negative, 0, 0, canonical_zero⟩
  else
    ⟨x.negative, x.significand / Nat.pow 2 digits * Nat.pow 2 digits, x.scale,
      Nat.lt_of_le_of_lt (Nat.div_mul_le_self _ _) x.canonical.1, x.canonical.2.1,
      x.canonical.2.2.imp
        (fun hfull => pow_le_div_mul hfull x.canonical.1 (Nat.le_of_not_lt h)) id⟩

end Dyadic

/-- Where a number lies on the extended line; a finite place is counted in units of
`2 ^ (-1074)`. -/
inductive Place where
  /-- Below every finite number. -/
  | below
  /-- At a multiple of `2 ^ (-1074)`. -/
  | at (units : Int)
  /-- Above every finite number. -/
  | above
  deriving DecidableEq

namespace Place

/-- Order two places along the line. -/
def compare : Place → Place → Ordering
  | .below, .below => .eq
  | .below, _ => .lt
  | .at _, .below => .gt
  | .at a, .at b => Ord.compare a b
  | .at _, .above => .lt
  | .above, .above => .eq
  | .above, _ => .gt

end Place

namespace Binary64

/-- The place of a number, if it is one. -/
def place? : Binary64 → Option Place
  | .nan => none
  | .infinite negative => some (if negative then .below else .above)
  | .finite x => some (.at x.units)

/-- Order two numbers by their places; nothing compares with what is no number. -/
def compare? (x y : Binary64) : Option Ordering :=
  match x.place?, y.place? with
  | some a, some b => some (a.compare b)
  | _, _ => none

/-- Whether the number is neither infinite nor no number. -/
def isFinite : Binary64 → Bool
  | .finite _ => true
  | _ => false

/-- Equality as comparison sees it: the two zeros are one, and no number equals nothing. -/
def same (x y : Binary64) : Bool := x.compare? y == some .eq

/-- Strictly before. -/
def precedes (x y : Binary64) : Bool := x.compare? y == some .lt

/-- The number without its fraction; what is infinite or no number stays as it is. -/
def truncate : Binary64 → Binary64
  | .finite x => .finite x.truncate
  | x => x

/-- The 64-bit integer that is left of a number without its fraction. Beyond the range it is the
nearest end, and no number gives zero. -/
def toInt64 : Binary64 → Int64
  | .nan => 0
  | .infinite negative => if negative then .minValue else .maxValue
  | .finite x => .ofIntClamp (x.units.tdiv (Int.ofNat (Nat.pow 2 1074)))

/-- Assemble a number from its parts; a scale beyond the largest one gives an infinity. -/
def ofParts (negative : Bool) (significand scale : Nat) : Binary64 :=
  if h : significand < Nat.pow 2 53 ∧ scale ≤ 2045 ∧ (Nat.pow 2 52 ≤ significand ∨ scale = 0) then
    .finite ⟨negative, significand, scale, h⟩
  else
    .infinite negative

/-- The integer nearest to `n / d`, the even one of two equally near. -/
def nearest (n d : Nat) : Nat :=
  let q := n / d
  let r := n % d
  if 2 * r < d ∨ (2 * r = d ∧ q % 2 = 0) then q else q + 1

/-- The number nearest to `± n / d`, the even significand of two equally near; `d` is not zero. -/
def ofQuotient (negative : Bool) (n d : Nat) : Binary64 :=
  let units := n * Nat.pow 2 1074
  let scale := (units / d).log2 - 52
  let significand := nearest units (d * Nat.pow 2 scale)
  if significand = Nat.pow 2 53 then ofParts negative (Nat.pow 2 52) (scale + 1)
  else ofParts negative significand scale

/-- The power of two right above all 64-bit integers, with a sign. -/
def int64Limit (negative : Bool) : Binary64 := ofParts negative (Nat.pow 2 52) 1085

/-- The number nearest to an integer. -/
def ofInt (i : Int) : Binary64 := ofQuotient (i < 0) i.natAbs 1

/-- The number nearest to `± digits · 10 ^ exponent`, rounded once. -/
def ofDecimal (negative : Bool) (digits : Nat) (exponent : Int) : Binary64 :=
  if digits = 0 then ofParts negative 0 0
  else if exponent < 0 then
    -- below the smallest quotient that does not round to zero, the exact power is not needed
    if exponent + Int.ofNat (Nat.toDigits 10 digits).length < -330 then ofParts negative 0 0
    else ofQuotient negative digits (Nat.pow 10 exponent.natAbs)
  else if exponent > 400 then .infinite negative
  else ofQuotient negative (digits * Nat.pow 10 exponent.natAbs) 1

/-- The product of two finite magnitudes, rounded. -/
def scaleUp (x y : Dyadic) : Binary64 :=
  ofQuotient (x.negative != y.negative) (x.units.natAbs * y.units.natAbs) (Nat.pow 2 2148)

/-- The quotient of two finite magnitudes, rounded; the divisor is not zero. -/
def scaleDown (x y : Dyadic) : Binary64 :=
  ofQuotient (x.negative != y.negative) x.units.natAbs y.units.natAbs

end Binary64

end Contracts
