import Contracts.Proofs.Number.Exact
import Contracts.Value.Order

/-!
# The order of values

Truth values, numbers and texts are three lines beside each other, and a value compares with the
values on its own line by their places on it. The place of a number is the exact number that it
denotes, so that integers and binary64 numbers share one line, chains through both kinds included.
-/

namespace Contracts

/-- The quotient by one decides the order, and the rest decides between equal quotients. -/
theorem compare_tdiv_then (i units one : ℤ) (hone : 0 < one) :
    (compare i (units.tdiv one)).then
        (if units.tdiv one * one < units then .lt
          else if units < units.tdiv one * one then .gt else .eq) =
      compare (i * one) units := by
  have hrest : units.tdiv one * one + units.tmod one = units := Int.tdiv_mul_add_tmod units one
  have hupper : units.tmod one < one := Int.tmod_lt_of_pos units hone
  have hlower : -one < units.tmod one := Int.lt_tmod_of_pos units hone
  rcases lt_trichotomy i (units.tdiv one) with hi | hi | hi
  · have hstep : (i + 1) * one ≤ units.tdiv one * one :=
      mul_le_mul_of_nonneg_right hi hone.le
    have hless : i * one < units := by linarith
    rw [compare_lt_iff_lt.mpr hi, compare_lt_iff_lt.mpr hless]
    rfl
  · rw [compare_eq_iff_eq.mpr hi, ← hi]
    rcases lt_trichotomy (i * one) units with hless | hequal | hmore
    · rw [if_pos hless, compare_lt_iff_lt.mpr hless]
      rfl
    · rw [if_neg (by omega), if_neg (by omega), compare_eq_iff_eq.mpr hequal]
      rfl
    · rw [if_neg (by omega), if_pos hmore, compare_gt_iff_gt.mpr hmore]
      rfl
  · have hstep : (units.tdiv one + 1) * one ≤ i * one :=
      mul_le_mul_of_nonneg_right hi hone.le
    have hmore : units < i * one := by linarith
    rw [compare_gt_iff_gt.mpr hi, compare_gt_iff_gt.mpr hmore]
    rfl

/-- The quotient by one lies in a range whose limits are multiples of one. -/
theorem tdiv_mem_range {limit units one : ℤ} (hlimit : 0 < limit) (hone : 0 < one)
    (hleast : -(limit * one) ≤ units) (hmost : units < limit * one) :
    -limit ≤ units.tdiv one ∧ units.tdiv one < limit := by
  rcases le_total 0 units with hunits | hunits
  · rw [Int.tdiv_eq_ediv_of_nonneg hunits]
    have hpositive : 0 ≤ units / one := Int.ediv_nonneg hunits hone.le
    exact ⟨by omega, Int.ediv_lt_of_lt_mul hone hmost⟩
  · have hopposite : 0 ≤ -units := by omega
    have hquotient : units.tdiv one = -(-units / one) := by
      rw [← Int.tdiv_eq_ediv_of_nonneg hopposite, Int.neg_tdiv, neg_neg]
    have hpositive : 0 ≤ -units / one := Int.ediv_nonneg hopposite hone.le
    have hwithin : -units / one ≤ limit := Int.ediv_le_of_le_mul hone (by omega)
    exact ⟨by omega, by omega⟩

namespace Binary64

/-- Finite numbers precede each other as their units do. -/
theorem precedes_finite (x y : Dyadic) :
    (finite x).precedes (finite y) = decide (x.units < y.units) := by
  change (some (compare x.units y.units) == some .lt) = _
  rcases lt_trichotomy x.units y.units with h | h | h
  · simp [compare_lt_iff_lt.mpr h, h]
  · simp [h]
  · simp [compare_gt_iff_gt.mpr h, h.le]

/-- An infinity precedes the finite numbers if it is below them. -/
theorem precedes_infinite (negative : Bool) (x : Dyadic) :
    (infinite negative).precedes (finite x) = negative := by
  cases negative with
  | false => rfl
  | true => rfl

/-- The power of two right above all 64-bit integers is a finite number. -/
theorem int64Limit_eq_finite (negative : Bool) :
    int64Limit negative = .finite ⟨negative, Nat.pow 2 52, 1085, by decide⟩ := by
  unfold int64Limit ofParts
  rw [dif_pos (by decide)]

/-- The power of two right above all 64-bit integers, in units. -/
theorem units_int64Limit {negative : Bool}
    (canonical :
      Nat.pow 2 52 < Nat.pow 2 53 ∧ 1085 ≤ 2045 ∧ (Nat.pow 2 52 ≤ Nat.pow 2 52 ∨ 1085 = 0)) :
    (Dyadic.mk negative (Nat.pow 2 52) 1085 canonical).units =
      if negative then -(2 ^ 63 * (unitsPerOne : ℤ)) else 2 ^ 63 * (unitsPerOne : ℤ) := by
  have hsize : Nat.pow 2 52 * 2 ^ 1085 = 2 ^ 63 * unitsPerOne := by
    rw [unitsPerOne_eq_pow, Nat.pow_eq, ← pow_add, ← pow_add]
  have hcast : ((Nat.pow 2 52 * 2 ^ 1085 : ℕ) : ℤ) = 2 ^ 63 * (unitsPerOne : ℤ) := by
    rw [hsize, Nat.cast_mul, Nat.cast_pow, Nat.cast_ofNat]
  rw [Dyadic.units_eq_size, Dyadic.size, hcast]

end Binary64

namespace Value

/-- The number that a value denotes, if it denotes one. -/
def denoted? : Value → Option Extended
  | .int i => some (.ofRat i.toInt)
  | .float x => x.denoted?
  | _ => none

/-- An integer is a number of ones. -/
theorem toExtended_at_mul (i : ℤ) : (Place.at (i * unitsPerOne)).toExtended = .ofRat i := by
  have hone : (unitsPerOne : ℚ) ≠ 0 := Nat.cast_ne_zero.mpr unitsPerOne_pos.ne'
  rw [Place.toExtended, Int.cast_mul, Int.cast_natCast, mul_div_cancel_right₀ _ hone]

/-- A number inside the range of 64-bit integers keeps its whole part as such an integer. -/
theorem toInt_toInt64 {x : Dyadic} (habove : x.units < 2 ^ 63 * (unitsPerOne : ℤ))
    (hbelow : ¬x.units < -(2 ^ 63 * (unitsPerOne : ℤ))) :
    (Binary64.finite x).truncate.toInt64.toInt = x.units.tdiv unitsPerOne := by
  have hone : (0 : ℤ) < unitsPerOne := Int.natCast_pos.mpr unitsPerOne_pos
  have hwhole : x.truncate.units.tdiv unitsPerOne = x.units.tdiv unitsPerOne := by
    rw [x.units_truncate, Int.mul_tdiv_cancel _ hone.ne']
  obtain ⟨hleast, hmost⟩ :=
    tdiv_mem_range (show (0 : ℤ) < 2 ^ 63 by decide) hone (not_lt.mp hbelow) habove
  change (Int64.ofIntClamp (x.truncate.units.tdiv unitsPerOne)).toInt = _
  rw [hwhole]
  exact Int64.toInt_ofIntClamp hleast (Int.le_of_lt_add_one hmost)

/-- An integer and a finite number are ordered by their units. -/
theorem compareIntFloat_finite (i : Int64) (x : Dyadic) :
    compareIntFloat i (.finite x) = some (compare (i.toInt * unitsPerOne) x.units) := by
  have hone : (0 : ℤ) < unitsPerOne := Int.natCast_pos.mpr unitsPerOne_pos
  have hleast : -2 ^ 63 * (unitsPerOne : ℤ) ≤ i.toInt * unitsPerOne :=
    mul_le_mul_of_nonneg_right i.le_toInt hone.le
  have hmost : i.toInt * unitsPerOne < 2 ^ 63 * (unitsPerOne : ℤ) :=
    mul_lt_mul_of_pos_right i.toInt_lt hone
  unfold compareIntFloat
  rw [if_neg (by simp), Binary64.int64Limit_eq_finite, Binary64.int64Limit_eq_finite,
    Binary64.precedes_finite, Binary64.precedes_finite, Binary64.units_int64Limit,
    Binary64.units_int64Limit]
  simp only [if_true, Bool.false_eq_true, if_false, Bool.not_eq_true', decide_eq_false_iff_not,
    decide_eq_true_eq]
  split
  · rename_i habove
    rw [compare_lt_iff_lt.mpr (by linarith)]
  · rename_i habove
    split
    · rename_i hbelow
      rw [compare_gt_iff_gt.mpr (by linarith)]
    · rename_i hbelow
      rw [toInt_toInt64 (not_not.mp habove) hbelow, ← compare_tdiv_then _ _ _ hone]
      simp only [Binary64.truncate, Binary64.precedes_finite, x.units_truncate, decide_eq_true_eq]

/-- An integer and a binary64 number compare as the numbers that they denote. -/
theorem compareIntFloat_eq_cmp (i : Int64) (x : Binary64) :
    compareIntFloat i x = x.denoted?.map (cmp (.ofRat i.toInt)) := by
  have hplace : compareIntFloat i x =
      x.place?.map (Place.at (i.toInt * unitsPerOne)).compare := by
    cases x with
    | nan => rfl
    | finite x => exact compareIntFloat_finite i x
    | infinite negative =>
      unfold compareIntFloat
      rw [if_neg (by simp), Binary64.int64Limit_eq_finite, Binary64.int64Limit_eq_finite,
        Binary64.precedes_infinite, Binary64.precedes_infinite]
      cases negative with
      | false => rfl
      | true => rfl
  rw [hplace, x.denoted?_eq_place?, Option.map_map]
  congr 1
  funext q
  rw [Place.compare_eq_cmp, toExtended_at_mul]
  rfl

/-- The place of a value on the line that it lies on: the line of truth values, the line of numbers
or the line of texts. -/
def position? : Value → Option (Bool ⊕ Extended ⊕ String)
  | .bool b => some (.inl b)
  | .text s => some (.inr (.inr s))
  | v => v.denoted?.map fun x => .inr (.inl x)

/-- Order two places on the same line. -/
def comparePositions? : Bool ⊕ Extended ⊕ String → Bool ⊕ Extended ⊕ String → Option Ordering
  | .inl a, .inl b => some (cmp a b)
  | .inr (.inl x), .inr (.inl y) => some (cmp x y)
  | .inr (.inr s), .inr (.inr t) => some (cmp s t)
  | _, _ => none

/-- Values compare by their places. -/
theorem compare?_eq_bind (a b : Value) :
    a.compare? b = a.position?.bind fun p => b.position?.bind (comparePositions? p) := by
  have hints : StrictMono fun i : ℤ => Extended.ofRat i :=
    Extended.ofRat_strictMono.comp Int.cast_strictMono
  cases a with
  | bool x =>
    cases b with
    | bool y => exact congrArg some (cmp_eq_compare x y).symm
    | float y =>
      cases hy : y.denoted? <;> simp [compare?, position?, denoted?, comparePositions?, hy]
    | _ => rfl
  | text s =>
    cases b with
    | text t => exact congrArg some (cmp_eq_compare s t).symm
    | float y =>
      cases hy : y.denoted? <;> simp [compare?, position?, denoted?, comparePositions?, hy]
    | _ => rfl
  | int i =>
    cases b with
    | int j => exact congrArg some ((cmp_eq_compare _ _).symm.trans (hints.cmp_map_eq _ _).symm)
    | float y =>
      change compareIntFloat i y = _
      rw [compareIntFloat_eq_cmp]
      cases hy : y.denoted? <;> simp [position?, denoted?, comparePositions?, hy]
    | _ => rfl
  | float x =>
    cases hx : x.denoted? with
    | none =>
      cases b with
      | int j => simp [compare?, compareIntFloat_eq_cmp, position?, denoted?, hx]
      | float y => simp [compare?, x.compare?_eq_cmp, position?, denoted?, hx]
      | _ => simp [compare?, position?, denoted?, hx]
    | some p =>
      cases b with
      | int j =>
        simp [compare?, compareIntFloat_eq_cmp, position?, denoted?, hx, comparePositions?,
          cmp_swap]
      | float y =>
        cases hy : y.denoted? <;>
          simp [compare?, x.compare?_eq_cmp, position?, denoted?, hx, hy, comparePositions?]
      | _ => simp [compare?, position?, denoted?, hx, comparePositions?]
  | _ => rfl

/-- Places on one line compare as they lie, and places on two lines lie in no order. -/
theorem comparePositions?_eq_some_iff (p q : Bool ⊕ Extended ⊕ String) (o : Ordering) :
    comparePositions? p q = some o ↔ o.Compares p q := by
  rcases p with p | p | p
  · rcases q with q | q | q
    · rw [comparePositions?, Option.some_inj, cmp_eq_compare, compare_iff]
      cases o <;> simp [Ordering.Compares]
    · cases o <;> simp [comparePositions?, Ordering.Compares]
    · cases o <;> simp [comparePositions?, Ordering.Compares]
  · rcases q with q | q | q
    · cases o <;> simp [comparePositions?, Ordering.Compares]
    · rw [comparePositions?, Option.some_inj, cmp_eq_compare, compare_iff]
      cases o <;> simp [Ordering.Compares]
    · cases o <;> simp [comparePositions?, Ordering.Compares]
  · rcases q with q | q | q
    · cases o <;> simp [comparePositions?, Ordering.Compares]
    · cases o <;> simp [comparePositions?, Ordering.Compares]
    · rw [comparePositions?, Option.some_inj, cmp_eq_compare, compare_iff]
      cases o <;> simp [Ordering.Compares]

/-- Two values compare so when they lie so on the same line. -/
theorem compare?_eq_some_iff (a b : Value) (o : Ordering) :
    a.compare? b = some o ↔
      ∃ p q, a.position? = some p ∧ b.position? = some q ∧ o.Compares p q := by
  simp only [compare?_eq_bind, Option.bind_eq_some_iff, comparePositions?_eq_some_iff]
  constructor
  · rintro ⟨p, hp, q, hq, h⟩
    exact ⟨p, q, hp, hq, h⟩
  · rintro ⟨p, q, hp, hq, h⟩
    exact ⟨p, hp, q, hq, h⟩

/-- Numbers compare as the numbers that they denote, whatever their kinds. -/
theorem compare?_of_denoted? {a b : Value} {p q : Extended} (ha : a.denoted? = some p)
    (hb : b.denoted? = some q) : a.compare? b = some (cmp p q) := by
  have hposition {v : Value} {x : Extended} (h : v.denoted? = some x) :
      v.position? = some (.inr (.inl x)) := by
    cases v <;> simp_all [position?, denoted?]
  rw [compare?_eq_bind, hposition ha, hposition hb]
  rfl

/-- The order of two values taken the other way round is reversed. -/
theorem compare?_swap (a b : Value) : b.compare? a = (a.compare? b).map Ordering.swap := by
  ext o
  rw [Option.map_eq_some_iff, compare?_eq_some_iff]
  constructor
  · rintro ⟨p, q, hp, hq, h⟩
    exact ⟨o.swap, (compare?_eq_some_iff a b _).mpr ⟨q, p, hq, hp, Ordering.compares_swap.mpr h⟩,
      o.swap_swap⟩
  · rintro ⟨o', h, rfl⟩
    obtain ⟨p, q, hp, hq, h⟩ := (compare?_eq_some_iff a b o').mp h
    exact ⟨q, p, hq, hp, Ordering.compares_swap.mpr h⟩

/-- A value precedes another one when it lies before it on the same line. -/
theorem precedes_iff (a b : Value) :
    a.precedes b = true ↔ ∃ p q, a.position? = some p ∧ b.position? = some q ∧ p < q := by
  rw [precedes, beq_iff_eq, compare?_eq_some_iff]
  rfl

/-- A value is at most another one when it lies before it or with it on the same line. -/
theorem atMost_iff (a b : Value) :
    a.atMost b = true ↔ ∃ p q, a.position? = some p ∧ b.position? = some q ∧ p ≤ q := by
  rw [atMost, Bool.or_eq_true, precedes_iff, beq_iff_eq, compare?_eq_some_iff]
  constructor
  · rintro (⟨p, q, hp, hq, h⟩ | ⟨p, q, hp, hq, h⟩)
    · exact ⟨p, q, hp, hq, h.le⟩
    · exact ⟨p, q, hp, hq, h.le⟩
  · rintro ⟨p, q, hp, hq, h⟩
    rcases h.lt_or_eq with hlt | heq
    · exact .inl ⟨p, q, hp, hq, hlt⟩
    · exact .inr ⟨p, q, hp, hq, heq⟩

/-- Steps that follow each other make a step, which is strict if one of them is. -/
theorem atMost_trans {a b c : Value} (hab : a.atMost b = true) (hbc : b.atMost c = true) :
    a.atMost c = true ∧
      (a.precedes b = true ∨ b.precedes c = true → a.precedes c = true) := by
  obtain ⟨p, q, hp, hq, hpq⟩ := (atMost_iff a b).mp hab
  obtain ⟨q', r, hq', hr, hqr⟩ := (atMost_iff b c).mp hbc
  obtain rfl : q = q' := Option.some.inj (hq.symm.trans hq')
  refine ⟨(atMost_iff a c).mpr ⟨p, r, hp, hr, hpq.trans hqr⟩, ?_⟩
  rintro (hstrict | hstrict)
  · obtain ⟨p', q', hp', hq', hlt⟩ := (precedes_iff a b).mp hstrict
    obtain rfl : p = p' := Option.some.inj (hp.symm.trans hp')
    obtain rfl : q = q' := Option.some.inj (hq.symm.trans hq')
    exact (precedes_iff a c).mpr ⟨p, r, hp, hr, hlt.trans_le hqr⟩
  · obtain ⟨q', r', hq', hr', hlt⟩ := (precedes_iff b c).mp hstrict
    obtain rfl : q = q' := Option.some.inj (hq.symm.trans hq')
    obtain rfl : r = r' := Option.some.inj (hr.symm.trans hr')
    exact (precedes_iff a c).mpr ⟨p, r, hp, hr, hpq.trans_lt hlt⟩

/-- Whether a value is the one of the numbers that denotes none. -/
def isNan : Value → Bool
  | .float .nan => true
  | _ => false

/-- The line of a place. -/
def scaleAt : Bool ⊕ Extended ⊕ String → Scale
  | .inl _ => .truth
  | .inr (.inl _) => .number
  | .inr (.inr _) => .text

/-- A value has a place on the line of its kind, unless it is no number. -/
theorem scale?_eq_map_position? {v : Value} (h : v.isNan = false) :
    v.scale? = v.position?.map scaleAt := by
  cases v with
  | float x =>
    cases x with
    | nan => contradiction
    | _ => rfl
  | _ => rfl

/-- What is no number has no place. -/
theorem position?_of_isNan {v : Value} (h : v.isNan = true) : v.position? = none := by
  cases v with
  | float x =>
    cases x with
    | nan => rfl
    | _ => contradiction
  | _ => contradiction

/-- Values have an order when their kinds have one and both are numbers, if their kinds are. -/
theorem compare?_isSome (a b : Value) :
    (a.compare? b).isSome = (a.isComparableWith b && !a.isNan && !b.isNan) := by
  rw [compare?_eq_bind]
  cases ha : a.isNan with
  | true => simp [position?_of_isNan ha]
  | false =>
    cases hb : b.isNan with
    | true => simp [position?_of_isNan hb]
    | false =>
      rw [isComparableWith, scale?_eq_map_position? ha, scale?_eq_map_position? hb]
      cases a.position? with
      | none => rfl
      | some p =>
        cases b.position? with
        | none => rfl
        | some q => rcases p with p | p | p <;> rcases q with q | q | q <;> rfl

/-- Whether kinds have an order does not depend on which one comes first. -/
theorem isComparableWith_comm (a b : Value) : a.isComparableWith b = b.isComparableWith a := by
  unfold isComparableWith
  cases a.scale? with
  | none => cases b.scale? <;> rfl
  | some s =>
    cases b.scale? with
    | none => rfl
    | some t => exact Bool.beq_comm

/-- Kinds that have an order with a third one have an order. -/
theorem isComparableWith_trans {a b c : Value} (hab : a.isComparableWith b = true)
    (hbc : b.isComparableWith c = true) : a.isComparableWith c = true := by
  unfold isComparableWith at *
  cases ha : a.scale? <;> cases hb : b.scale? <;> cases hc : c.scale? <;> simp_all

/-- Values at the same place are equal scalars, or an integer and a binary64 number that denotes the
same number. -/
theorem compare?_eq_some_eq_iff (a b : Value) :
    a.compare? b = some .eq ↔
      (a.scale?.isSome = true ∧ b.scale?.isSome = true ∧ a.same b = true) ∨
      ∃ i x, (a = .int i ∧ b = .float x ∨ a = .float x ∧ b = .int i) ∧
        x.denoted? = some (.ofRat i.toInt) := by
  have hmixed (i : Int64) (x : Binary64) :
      compareIntFloat i x = some .eq ↔ x.denoted? = some (.ofRat i.toInt) := by
    rw [compareIntFloat_eq_cmp, Option.map_eq_some_iff]
    constructor
    · rintro ⟨p, hp, h⟩
      rw [hp, (cmp_eq_eq_iff _ _).mp h]
    · intro hx
      exact ⟨_, hx, cmp_self_eq_eq _⟩
  cases a with
  | bool x => cases b <;> simp [compare?, scale?, same]
  | text s => cases b <;> simp [compare?, scale?, same]
  | int i =>
    cases b with
    | int j => simp [compare?, scale?, same, Int64.toInt_inj]
    | float y => simp [compare?, hmixed, same]
    | _ => simp [compare?, scale?, same]
  | float x =>
    cases b with
    | int j => simp [compare?, hmixed, same, Ordering.swap_eq_eq]
    | float y => simp [compare?, scale?, same, Binary64.same]
    | _ => simp [compare?, scale?, same]
  | _ => cases b <;> simp [compare?, scale?]

/-- The order of values is an exact partial order. -/
theorem comparison_exact :
    (∀ (a b : Value) (p q : Extended), a.denoted? = some p → b.denoted? = some q →
      a.compare? b = some (cmp p q)) ∧
    (∀ a b : Value, b.compare? a = (a.compare? b).map Ordering.swap) ∧
    (∀ a b c : Value, a.atMost b = true → b.atMost c = true →
      a.atMost c = true ∧
        (a.precedes b = true ∨ b.precedes c = true → a.precedes c = true)) ∧
    (∀ a b : Value, (a.compare? b).isSome = (a.isComparableWith b && !a.isNan && !b.isNan)) ∧
    (∀ a b : Value, a.isComparableWith b = b.isComparableWith a) ∧
    (∀ a b c : Value, a.isComparableWith b = true → b.isComparableWith c = true →
      a.isComparableWith c = true) ∧
    (∀ a b : Value, a.compare? b = some .eq ↔
      (a.scale?.isSome = true ∧ b.scale?.isSome = true ∧ a.same b = true) ∨
      ∃ i x, (a = .int i ∧ b = .float x ∨ a = .float x ∧ b = .int i) ∧
        x.denoted? = some (.ofRat i.toInt)) :=
  ⟨fun _ _ _ _ => compare?_of_denoted?, compare?_swap, fun _ _ _ => atMost_trans, compare?_isSome,
    isComparableWith_comm, fun _ _ _ => isComparableWith_trans, compare?_eq_some_eq_iff⟩

/-- The greatest integer, the number right above all integers and infinity follow each other. -/
theorem comparison_exact_int64Limit :
    let greatest : Value := .int .maxValue
    let limit : Value := .float (.int64Limit false)
    let infinity : Value := .float (.infinite false)
    (greatest.denoted? = some (.ofRat Int64.maxValue.toInt) ∧ infinity.denoted? = some ⊤ ∧
        greatest.compare? infinity = some (cmp (Extended.ofRat Int64.maxValue.toInt) ⊤)) ∧
      (greatest.atMost limit = true ∧ limit.atMost infinity = true ∧
        greatest.precedes limit = true ∧ greatest.precedes infinity = true) ∧
      (greatest.isComparableWith limit = true ∧ limit.isComparableWith infinity = true ∧
        greatest.isComparableWith infinity = true) := by
  intro greatest limit infinity
  obtain ⟨hnumbers, -, htrans, -, -, hkinds, -⟩ := comparison_exact
  have hgreatest : greatest.atMost limit = true := by decide +kernel
  have hlimit : limit.atMost infinity = true := by decide +kernel
  have hstrict : greatest.precedes limit = true := by decide +kernel
  have hkind : greatest.isComparableWith limit = true := by decide
  have hkind' : limit.isComparableWith infinity = true := by decide
  exact ⟨⟨rfl, rfl, hnumbers greatest infinity _ _ rfl rfl⟩,
    ⟨hgreatest, hlimit, hstrict, (htrans _ _ _ hgreatest hlimit).2 (.inl hstrict)⟩,
    ⟨hkind, hkind', hkinds _ _ _ hkind hkind'⟩⟩

end Value

end Contracts
