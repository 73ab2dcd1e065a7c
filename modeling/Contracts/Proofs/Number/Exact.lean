import Contracts.Number.Binary64
import Mathlib

/-!
# The exact numbers that binary64 numbers denote

A finite binary64 number denotes a rational number, an infinity lies beyond all of them, and what is
no number denotes none. Binary64 numbers compare as the numbers they denote, and cutting a fraction
off leaves the quotient by one, rounded toward zero.
-/

namespace Contracts

/-- The rational numbers between two infinities. -/
abbrev Extended := WithBot (WithTop ℚ)

/-- A rational number between the infinities. -/
def Extended.ofRat (q : ℚ) : Extended := ((q : WithTop ℚ) : WithBot (WithTop ℚ))

/-- Rational numbers keep their order between the infinities. -/
theorem Extended.ofRat_strictMono : StrictMono Extended.ofRat :=
  WithBot.coe_strictMono.comp WithTop.coe_strictMono

/-- A rational number is less than the upper infinity. -/
theorem Extended.ofRat_lt_top (q : ℚ) : Extended.ofRat q < ⊤ :=
  WithBot.coe_lt_coe.mpr (WithTop.coe_lt_top q)

/-- A rational number is more than the lower infinity. -/
theorem Extended.bot_lt_ofRat (q : ℚ) : ⊥ < Extended.ofRat q := WithBot.bot_lt_coe _

/-- The number of units of `2 ^ (-1074)` in one. -/
def unitsPerOne : ℕ := Nat.pow 2 1074

theorem unitsPerOne_eq_pow : unitsPerOne = 2 ^ 1074 := by rw [unitsPerOne, Nat.pow_eq]

theorem unitsPerOne_pos : 0 < unitsPerOne := by
  rw [unitsPerOne_eq_pow]
  positivity

/-- Cutting digits off a significand cuts the same places off the whole number. -/
theorem div_pow_mul_pow (significand scale point : ℕ) :
    significand / 2 ^ (point - scale) * 2 ^ (point - scale) * 2 ^ scale =
      significand * 2 ^ scale / 2 ^ point * 2 ^ point := by
  rcases Nat.le_total scale point with hscale | hscale
  · have hpoint : 2 ^ point = 2 ^ (point - scale) * 2 ^ scale := by
      rw [← pow_add, Nat.sub_add_cancel hscale]
    rw [hpoint, Nat.mul_div_mul_right _ _ (by positivity), mul_assoc]
  · have hwhole : 2 ^ point ∣ significand * 2 ^ scale := (pow_dvd_pow 2 hscale).mul_left _
    rw [Nat.div_mul_cancel hwhole, Nat.sub_eq_zero_of_le hscale, pow_zero, Nat.div_one, mul_one]

namespace Dyadic

/-- The rational number that a finite number denotes. -/
def toRat (x : Dyadic) : ℚ :=
  (if x.negative then -1 else 1) * x.significand * 2 ^ ((x.scale : ℤ) - 1074)

/-- The number of units without the sign. -/
def size (x : Dyadic) : ℕ := x.significand * 2 ^ x.scale

theorem units_eq_size (x : Dyadic) :
    x.units = if x.negative then -(x.size : ℤ) else (x.size : ℤ) := rfl

/-- A finite number is its units over those of one. -/
theorem toRat_eq_units_div (x : Dyadic) : x.toRat = x.units / unitsPerOne := by
  have hone : (unitsPerOne : ℚ) = 2 ^ (1074 : ℤ) := by
    rw [unitsPerOne_eq_pow, Nat.cast_pow, ← zpow_natCast, Nat.cast_ofNat, Nat.cast_ofNat]
  have hsize : (x.size : ℚ) = x.significand * 2 ^ (x.scale : ℤ) := by
    rw [size, Nat.cast_mul, Nat.cast_pow, zpow_natCast]
    rfl
  rw [toRat, units_eq_size, hone, zpow_sub₀ two_ne_zero, mul_div_assoc']
  congr 1
  cases x.negative with
  | false => simp [hsize]
  | true => simp [hsize]

/-- What is left of a number without its fraction has the same sign. -/
theorem truncate_negative (x : Dyadic) : x.truncate.negative = x.negative := by
  unfold truncate
  dsimp only
  split
  · rfl
  · rfl

/-- What is left of a number without its fraction is a multiple of one. -/
theorem truncate_size (x : Dyadic) :
    x.truncate.size = x.size / unitsPerOne * unitsPerOne := by
  rw [unitsPerOne_eq_pow, size, size, ← div_pow_mul_pow]
  unfold truncate
  dsimp only
  split
  · rename_i hfraction
    have hzero : x.significand / 2 ^ (1074 - x.scale) = 0 := Nat.div_eq_of_lt hfraction
    rw [hzero, zero_mul, zero_mul, zero_mul]
  · rfl

/-- Cutting the fraction off divides by one and rounds toward zero. -/
theorem units_truncate (x : Dyadic) :
    x.truncate.units = x.units.tdiv unitsPerOne * unitsPerOne := by
  rw [units_eq_size, units_eq_size, truncate_negative, truncate_size]
  cases x.negative with
  | false => exact Nat.cast_mul _ _
  | true =>
    rw [if_pos rfl, if_pos rfl, Int.neg_tdiv, Nat.cast_mul, neg_mul]
    rfl

end Dyadic

namespace Place

/-- The number at a place. -/
def toExtended : Place → Extended
  | .below => ⊥
  | .at units => .ofRat (units / unitsPerOne)
  | .above => ⊤

/-- More units are more. -/
theorem toExtended_at_strictMono : StrictMono fun units => (Place.at units).toExtended := by
  intro a b hab
  have hone : (0 : ℚ) < unitsPerOne := Nat.cast_pos.mpr unitsPerOne_pos
  exact Extended.ofRat_strictMono (div_lt_div_of_pos_right (Int.cast_lt.mpr hab) hone)

/-- Places lie along the line as the numbers at them. -/
theorem compare_eq_cmp (p q : Place) : p.compare q = cmp p.toExtended q.toExtended := by
  refine (Ordering.Compares.cmp_eq ?_).symm
  cases p with
  | below =>
    cases q with
    | below => exact rfl
    | «at» b => exact Extended.bot_lt_ofRat _
    | above => exact WithBot.bot_lt_coe _
  | «at» a =>
    cases q with
    | below => exact Extended.bot_lt_ofRat _
    | «at» b => exact toExtended_at_strictMono.compares.mpr ((compare_iff a b).mp rfl)
    | above => exact Extended.ofRat_lt_top _
  | above =>
    cases q with
    | below => exact WithBot.bot_lt_coe _
    | «at» b => exact Extended.ofRat_lt_top _
    | above => exact rfl

end Place

namespace Binary64

/-- The number on the extended line that a binary64 number denotes, if it denotes one. -/
def denoted? : Binary64 → Option Extended
  | .nan => none
  | .infinite negative => some (if negative then ⊥ else ⊤)
  | .finite x => some (.ofRat x.toRat)

/-- A binary64 number denotes the number at its place. -/
theorem denoted?_eq_place? (x : Binary64) : x.denoted? = x.place?.map Place.toExtended := by
  cases x with
  | nan => rfl
  | infinite negative => cases negative <;> rfl
  | finite x =>
    rw [denoted?, x.toRat_eq_units_div]
    rfl

/-- Binary64 numbers compare as the numbers that they denote. -/
theorem compare?_eq_cmp (x y : Binary64) :
    x.compare? y = x.denoted?.bind fun p => y.denoted?.map (cmp p) := by
  rw [denoted?_eq_place?, denoted?_eq_place?, compare?]
  cases x.place? with
  | none => rfl
  | some p =>
    cases y.place? with
    | none => rfl
    | some q => exact congrArg some (p.compare_eq_cmp q)

end Binary64

end Contracts
