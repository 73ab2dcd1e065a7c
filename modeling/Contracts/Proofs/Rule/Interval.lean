import Contracts.Proofs.Annotation.Readiness
import Contracts.Proofs.Value.Order

/-!
# What an interval accepts

An interval rule accepts the present values that lie between its bounds, and a bound itself where it
is inclusive, in the exact order of values across integers and binary64 numbers. What it accepts is
therefore convex, grows when the interval is widened, and is nothing if the bounds are the wrong way
round, if they meet and one of them is exclusive, or if one of them is no number.
-/

namespace Contracts

namespace Value

variable {a b : Value}

/-- A value that denotes a number is there. -/
theorem isNull_of_denoted? {x : Extended} (h : a.denoted? = some x) : a.isNull = false := by
  cases a with
  | null => contradiction
  | _ => rfl

/-- A value that is no number is there. -/
theorem isNull_of_isNan (h : a.isNan = true) : a.isNull = false := by
  cases a with
  | null => contradiction
  | _ => rfl

/-- A value is at most another one when it precedes it or lies with it. -/
theorem atMost_iff_or : a.atMost b = true ↔ a.precedes b = true ∨ a.compare? b = some .eq := by
  rw [atMost, Bool.or_eq_true, beq_iff_eq]

/-- Values one of which is at most the other are of ordered kinds, and none of them is no number. -/
theorem ordered_of_atMost (h : a.atMost b = true) :
    a.isComparableWith b = true ∧ a.isNan = false ∧ b.isNan = false := by
  have hordered : (a.compare? b).isSome = true := by
    rcases atMost_iff_or.mp h with hlt | heq
    · rw [precedes, beq_iff_eq] at hlt
      rw [hlt, Option.isSome_some]
    · rw [heq, Option.isSome_some]
  rw [compare?_isSome, Bool.and_eq_true, Bool.and_eq_true, Bool.not_eq_true', Bool.not_eq_true']
    at hordered
  exact ⟨hordered.1.1, hordered.1.2, hordered.2⟩

end Value

namespace BoundaryMode

/-- The side of a lower end on which a higher one lies, with the end itself if the mode says so. -/
def Admits (mode : BoundaryMode) (low high : Value) : Prop :=
  low.precedes high = true ∨ low.compare? high = some .eq ∧ mode = .inclusive

variable {mode other : BoundaryMode} {a b c : Value}

/-- A mode holds of what lies behind a bound, and of the bound if it is inclusive. -/
theorem holds_iff (mode : BoundaryMode) (o : Option Ordering) :
    mode.holds o = true ↔ o = some .gt ∨ o = some .eq ∧ mode = .inclusive := by
  rcases o with _ | _ | _ | _ <;> simp [holds]

/-- A mode holds of a value above a bound that admits it. -/
theorem holds_above_iff (mode : BoundaryMode) (low v : Value) :
    mode.holds (v.compare? low) = true ↔ mode.Admits low v := by
  rw [holds_iff, Value.compare?_swap low v, Admits, Value.precedes, beq_iff_eq]
  rcases low.compare? v with _ | _ | _ | _ <;> simp

/-- A mode holds of a value below a bound that it admits. -/
theorem holds_below_iff (mode : BoundaryMode) (v high : Value) :
    mode.holds ((v.compare? high).map Ordering.swap) = true ↔ mode.Admits v high := by
  rw [← Value.compare?_swap, holds_above_iff]

namespace Admits

/-- The lower end is at most what it admits. -/
theorem atMost (h : mode.Admits a b) : a.atMost b = true :=
  Value.atMost_iff_or.mpr (h.imp_right And.left)

/-- What lies behind something admitted is admitted. -/
theorem trans_atMost (h : mode.Admits a b) (hbc : b.atMost c = true) : mode.Admits a c := by
  obtain ⟨hac, hstrict⟩ := Value.atMost_trans h.atMost hbc
  rcases h with hab | ⟨-, hmode⟩
  · exact .inl (hstrict (.inl hab))
  · exact (Value.atMost_iff_or.mp hac).imp_right fun heq => ⟨heq, hmode⟩

/-- What lies before an end admits what the end admits. -/
theorem of_atMost (hab : a.atMost b = true) (h : mode.Admits b c) : mode.Admits a c := by
  obtain ⟨hac, hstrict⟩ := Value.atMost_trans hab h.atMost
  rcases h with hbc | ⟨-, hmode⟩
  · exact .inl (hstrict (.inr hbc))
  · exact (Value.atMost_iff_or.mp hac).imp_right fun heq => ⟨heq, hmode⟩

/-- A mode that is inclusive where another one is admits what the other one does. -/
theorem relax (hmode : mode = .inclusive → other = .inclusive) (h : mode.Admits a b) :
    other.Admits a b :=
  h.imp_right fun heq => ⟨heq.1, hmode heq.2⟩

/-- Two modes in a row admit what lies strictly behind, or at the same place if both are
inclusive. -/
theorem trans (hab : mode.Admits a b) (hbc : other.Admits b c) :
    a.precedes c = true ∨ a.compare? c = some .eq ∧ mode = .inclusive ∧ other = .inclusive := by
  rcases hab.trans_atMost hbc.atMost with hlt | ⟨heq, hmode⟩
  · exact .inl hlt
  · rcases Admits.of_atMost hab.atMost hbc with hlt | ⟨-, hother⟩
    · exact .inl hlt
    · exact .inr ⟨heq, hmode, hother⟩

end Admits

/-- Between numbers a mode admits what is greater, and what is equal if it is inclusive. -/
theorem admits_iff_of_denoted? {p q : Extended} (ha : a.denoted? = some p)
    (hb : b.denoted? = some q) :
    mode.Admits a b ↔ p < q ∨ p = q ∧ mode = .inclusive := by
  rw [Admits, Value.precedes, beq_iff_eq, Value.compare?_of_denoted? ha hb, Option.some_inj,
    Option.some_inj, cmp_eq_lt_iff, cmp_eq_eq_iff]

end BoundaryMode

namespace IntervalRule

variable {r s : IntervalRule} {x y z v : Value}

/-- A value lies between the bounds of an interval, or on a bound that is inclusive. -/
structure Encloses (r : IntervalRule) (v : Value) : Prop where
  above : r.minMode.Admits r.min v
  below : r.maxMode.Admits v r.max

/-- What lies between enclosed values is enclosed. -/
theorem Encloses.convex (hx : r.Encloses x) (hz : r.Encloses z) (hxy : x.atMost y = true)
    (hyz : y.atMost z = true) : r.Encloses y :=
  ⟨hx.above.trans_atMost hxy, hz.below.of_atMost hyz⟩

/-- One interval is as wide as another one, or wider: each bound is further out, or it is the same
or at the same place and inclusive if that of the other one is. -/
structure Widens (s r : IntervalRule) : Prop where
  min : s.min.precedes r.min = true ∨
    (s.min = r.min ∨ s.min.compare? r.min = some .eq) ∧
      (r.minMode = .inclusive → s.minMode = .inclusive)
  max : r.max.precedes s.max = true ∨
    (r.max = s.max ∨ r.max.compare? s.max = some .eq) ∧
      (r.maxMode = .inclusive → s.maxMode = .inclusive)

/-- What an interval encloses a wider one encloses. -/
theorem Encloses.widen (h : r.Encloses v) (hwide : s.Widens r) : s.Encloses v := by
  constructor
  · rcases hwide.min with hlt | ⟨heq | heq, hmode⟩
    · have hmin := Value.atMost_iff_or.mpr (.inl hlt)
      exact .inl ((Value.atMost_trans hmin h.above.atMost).2 (.inl hlt))
    · rw [heq]
      exact h.above.relax hmode
    · exact (h.above.relax hmode).of_atMost (Value.atMost_iff_or.mpr (.inr heq))
  · rcases hwide.max with hlt | ⟨heq | heq, hmode⟩
    · have hmax := Value.atMost_iff_or.mpr (.inl hlt)
      exact .inl ((Value.atMost_trans h.below.atMost hmax).2 (.inr hlt))
    · rw [← heq]
      exact h.below.relax hmode
    · exact (h.below.relax hmode).trans_atMost (Value.atMost_iff_or.mpr (.inr heq))

/-- Nothing lies between the bounds of an interval: they are the wrong way round, they meet and one
of them is exclusive, or one of them is no number. -/
inductive IsVoid (r : IntervalRule) : Prop where
  | inverted (h : r.max.precedes r.min = true)
  | excluded (hmeet : r.min.compare? r.max = some .eq)
    (hmode : r.minMode = .exclusive ∨ r.maxMode = .exclusive)
  | nan (h : r.min.isNan = true ∨ r.max.isNan = true)

/-- A void interval encloses nothing. -/
theorem Encloses.not_isVoid (h : r.Encloses v) : ¬r.IsVoid := by
  have hbounds := h.above.trans h.below
  rintro (hlt | ⟨hmeet, hmode⟩ | hnan)
  · rw [Value.precedes, beq_iff_eq, Value.compare?_swap r.min] at hlt
    rcases hbounds with hbefore | ⟨heq, -⟩
    · rw [Value.precedes, beq_iff_eq] at hbefore
      rw [hbefore] at hlt
      contradiction
    · rw [heq] at hlt
      contradiction
  · rcases hbounds with hbefore | ⟨-, hmin, hmax⟩
    · rw [Value.precedes, beq_iff_eq, hmeet] at hbefore
      contradiction
    · rw [hmin, hmax] at hmode
      simp at hmode
  · obtain ⟨-, hmin, -⟩ := Value.ordered_of_atMost h.above.atMost
    obtain ⟨-, -, hmax⟩ := Value.ordered_of_atMost h.below.atMost
    simp [hmin, hmax] at hnan

/-- What is no number is enclosed by nothing. -/
theorem Encloses.isNan_eq_false (h : r.Encloses v) : v.isNan = false :=
  (Value.ordered_of_atMost h.above.atMost).2.2

/-- An interval encloses only values that are comparable with both bounds. -/
theorem Encloses.isComparableWith (h : r.Encloses v) :
    r.min.isComparableWith v = true ∧ v.isComparableWith r.max = true :=
  ⟨(Value.ordered_of_atMost h.above.atMost).1, (Value.ordered_of_atMost h.below.atMost).1⟩

/-- The bounds of an interval enclose what lies between them. -/
theorem bounds_encloses_iff (r : IntervalRule) (v : Value) :
    r.bounds.encloses r.min r.max v = true ↔ r.Encloses v := by
  rw [Bounds.encloses, Bool.and_eq_true, BoundaryMode.holds_above_iff, BoundaryMode.holds_below_iff]
  exact ⟨fun h => ⟨h.1, h.2⟩, fun h => ⟨h.above, h.below⟩⟩

/-- An interval rule accepts a present value if and only if the interval encloses it. -/
theorem evaluate_eq_ok_iff (r : IntervalRule) (policy : FailurePolicy) (parameter : String)
    (hv : v.isNull = false) : r.evaluate policy v parameter = .ok () ↔ r.Encloses v := by
  have hpresent := Value.present_of_isNull_eq_false hv
  cases hmin : r.min.isNull with
  | true =>
    refine iff_of_false (by simp [evaluate, Value.present_of_isNull hmin]) fun h => ?_
    simp [(Value.isNull_of_isComparableWith h.isComparableWith.1).1] at hmin
  | false =>
    cases hmax : r.max.isNull with
    | true =>
      refine iff_of_false (by
        simp [evaluate, Value.present_of_isNull_eq_false hmin, Value.present_of_isNull hmax])
        fun h => ?_
      simp [(Value.isNull_of_isComparableWith h.isComparableWith.2).2] at hmax
    | false =>
      have hrequire : r.bounds.require = .ok (r.min, r.max) := by
        simp [Bounds.require, bounds, Value.present_of_isNull_eq_false hmin,
          Value.present_of_isNull_eq_false hmax]
      simp only [evaluate, Value.present_of_isNull_eq_false hmin,
        Value.present_of_isNull_eq_false hmax, hv, Bool.not_false, Bool.true_and,
        Bool.not_eq_true']
      split
      · rename_i halien
        refine iff_of_false (by simp) fun h => ?_
        rw [Value.isComparableWith_comm, h.isComparableWith.1] at halien
        contradiction
      · split
        · rename_i halien
          refine iff_of_false (by simp) fun h => ?_
          rw [h.isComparableWith.2] at halien
          contradiction
        · rw [hpresent, Rule.interval, hrequire, ← bounds_encloses_iff]
          dsimp only
          split
          · rename_i hinside
            exact iff_of_true rfl hinside
          · rename_i houtside
            exact iff_of_false (by simp) houtside

end IntervalRule

namespace Annotation

/-- An annotation accepts a value of a parameter, on a target if there is one. -/
def Accepts (a : Annotation) (target : Option Value) (parameter : String) (v : Value) : Prop :=
  (Validator.validate a target v parameter).1 = .ok ()

/-- With a policy, an interval annotation accepts the present values that its interval encloses. -/
theorem accepts_iff_encloses {a : Annotation} {r : IntervalRule} {policy : FailurePolicy}
    (hrule : a.rule = .interval r) (hpolicy : a.currentPolicy = .ok policy)
    (target : Option Value) (parameter : String) {v : Value} (hv : v.isNull = false) :
    a.Accepts target parameter v ↔ r.Encloses v := by
  have hjudged : (Validator.validate a target v parameter).1 = r.evaluate policy v parameter := by
    change a.judge v parameter = _
    simp only [judge, hpolicy, hrule, r.check_eq_evaluate]
  rw [Accepts, hjudged, r.evaluate_eq_ok_iff policy parameter hv]

/-- An interval annotation with a policy accepts exactly its interval, in the exact order of values:
of the numbers those between the numbers that its bounds denote. What it accepts is convex, an
annotation with a wider interval accepts it too, and it is nothing if the interval is void. What is
no number is never accepted. -/
theorem accepts_interval {a : Annotation} {r : IntervalRule} {policy : FailurePolicy}
    (hrule : a.rule = .interval r) (hpolicy : a.currentPolicy = .ok policy)
    (target : Option Value) (parameter : String) :
    (∀ v : Value, v.isNull = false → (a.Accepts target parameter v ↔ r.Encloses v)) ∧
    (∀ (v : Value) (p x q : Extended), r.min.denoted? = some p → v.denoted? = some x →
      r.max.denoted? = some q →
      (a.Accepts target parameter v ↔
        (p < x ∨ p = x ∧ r.minMode = .inclusive) ∧ (x < q ∨ x = q ∧ r.maxMode = .inclusive))) ∧
    (∀ x y z : Value, x.atMost y = true → y.atMost z = true → a.Accepts target parameter x →
      a.Accepts target parameter z → a.Accepts target parameter y) ∧
    (∀ (b : Annotation) (s : IntervalRule) (policy' : FailurePolicy), b.rule = .interval s →
      b.currentPolicy = .ok policy' → s.Widens r → ∀ v : Value, v.isNull = false →
      a.Accepts target parameter v → b.Accepts target parameter v) ∧
    (r.IsVoid → ∀ v : Value, v.isNull = false → ¬a.Accepts target parameter v) ∧
    ∀ v : Value, v.isNan = true → ¬a.Accepts target parameter v := by
  have haccepts {v : Value} (hv : v.isNull = false) :
      a.Accepts target parameter v ↔ r.Encloses v :=
    accepts_iff_encloses hrule hpolicy target parameter hv
  refine ⟨fun v => haccepts, ?_, ?_, ?_, ?_, ?_⟩
  · intro v p x q hmin hx hmax
    rw [haccepts (Value.isNull_of_denoted? hx), ← BoundaryMode.admits_iff_of_denoted? hmin hx,
      ← BoundaryMode.admits_iff_of_denoted? hx hmax]
    exact ⟨fun h => ⟨h.above, h.below⟩, fun h => ⟨h.1, h.2⟩⟩
  · intro x y z hxy hyz hx hz
    obtain ⟨hxNull, hyNull⟩ := Value.isNull_of_isComparableWith (Value.ordered_of_atMost hxy).1
    have hzNull := (Value.isNull_of_isComparableWith (Value.ordered_of_atMost hyz).1).2
    exact (haccepts hyNull).mpr
      (((haccepts hxNull).mp hx).convex ((haccepts hzNull).mp hz) hxy hyz)
  · intro b s policy' hother hpolicy' hwide v hv hinside
    exact (accepts_iff_encloses hother hpolicy' target parameter hv).mpr
      (((haccepts hv).mp hinside).widen hwide)
  · intro hvoid v hv hinside
    exact ((haccepts hv).mp hinside).not_isVoid hvoid
  · intro v hnan hinside
    have hv := Value.isNull_of_isNan hnan
    rw [((haccepts hv).mp hinside).isNan_eq_false] at hnan
    contradiction

/-- Below the number right above all integers lies the greatest integer, which binary64 numbers
cannot tell from it. -/
theorem accepts_interval_int64Limit :
    let r : IntervalRule := ⟨.int 0, .inclusive, .float (.int64Limit false), .exclusive⟩
    let a := fresh (.interval r) {}
    a.currentPolicy = .ok .standard ∧ a.Accepts none "count" (.int .maxValue) ∧
      a.Accepts none "count" (.int 7) ∧ ¬a.Accepts none "count" (.float (.int64Limit false)) ∧
      ¬a.Accepts none "count" (.float .nan) := by
  intro r a
  have hpolicy : a.currentPolicy = .ok .standard := rfl
  obtain ⟨hencloses, -, hconvex, -, -, hnan⟩ := accepts_interval rfl hpolicy none "count"
  have hgreatest : a.Accepts none "count" (.int .maxValue) :=
    (hencloses _ rfl).mpr ⟨.inl (by decide +kernel), .inl (by decide +kernel)⟩
  have hleast : a.Accepts none "count" (.int 0) :=
    (hencloses _ rfl).mpr ⟨.inr ⟨by decide +kernel, rfl⟩, .inl (by decide +kernel)⟩
  have hlimit : ¬a.Accepts none "count" (.float (.int64Limit false)) := by
    have hself :
        (Value.float (.int64Limit false)).precedes (.float (.int64Limit false)) = false := by
      decide +kernel
    rw [hencloses _ rfl]
    intro h
    rcases h.below with hlt | ⟨-, hmode⟩
    · exact absurd (hself.symm.trans hlt) Bool.false_ne_true
    · exact nomatch hmode
  exact ⟨hpolicy, hgreatest,
    hconvex _ _ _ (by decide +kernel) (by decide +kernel) hleast hgreatest, hlimit,
    hnan _ rfl⟩

end Annotation

end Contracts
