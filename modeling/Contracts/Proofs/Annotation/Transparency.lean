import Contracts.Proofs.Annotation.History

/-!
# Judging without kept results

`AnnotationRule.evaluate` evaluates a rule under a policy and keeps nothing: a pattern is compiled
for every value, and every countable value is counted in the same way. After any history an
annotation judges a value as its rule is evaluated under its policy, except that a not-empty rule
that is bound to an element type refuses collections of another one. Which policy that is follows
from the history: without an error type it is the message's own, and with one it is that of the
first check against a model that can construct the type.
-/

namespace Contracts

/-- Evaluate an interval rule: both bounds must be there, and a present value must be comparable
with each of them, before the interval is asked. -/
def IntervalRule.evaluate (r : IntervalRule) (policy : FailurePolicy) (value : Value)
    (parameter : String) : Outcome :=
  match r.min.present, r.max.present with
  | none, _ => .error (.configuration (.missingBound .min))
  | some _, none => .error (.configuration (.missingBound .max))
  | some min, some max =>
    if !value.isNull && !value.isComparableWith min then
      .error (.configuration (.incomparableBounds value.kind min.kind))
    else if !value.isNull && !value.isComparableWith max then
      .error (.configuration (.incomparableBounds value.kind max.kind))
    else
      Rule.interval value.present r.bounds parameter (policy.report Rule.intervalKind parameter)

/-- Evaluate a pattern rule from its source; a value that is neither absent nor text has the wrong
shape once the source compiles. -/
def PatternRule.evaluate (r : PatternRule) (policy : FailurePolicy) (value : Value)
    (parameter : String) : Outcome :=
  if value.isNull || value.text?.isSome then
    Rule.patternSource value.text? (some r.pattern) r.options parameter
      (policy.report Rule.patternKind parameter)
  else
    match r.options.compile r.pattern with
    | .error e => .error (.configuration e)
    | .ok _ => .error (.configuration (.valueMismatch "text" value.kind))

namespace AnnotationRule

/-- Evaluate a rule under a policy. -/
def evaluate (rule : AnnotationRule) (policy : FailurePolicy) (value : Value)
    (parameter : String) : Outcome :=
  match rule with
  | .notNull => Rule.notNull value.present parameter (policy.report Rule.notNullKind parameter)
  | .notEmpty =>
    if value.isNull then .ok ()
    else
      match value.count? with
      | some count =>
        Rule.notEmpty (some count) parameter (policy.report Rule.notEmptyKind parameter)
      | none => .error (.configuration (.valueMismatch "text or collection" value.kind))
  | .interval r => r.evaluate policy value parameter
  | .pattern r => r.evaluate policy value parameter

end AnnotationRule

/-- Checking against an interval is evaluating it. -/
theorem IntervalRule.check_eq_evaluate (r : IntervalRule) (policy : FailurePolicy) (value : Value)
    (parameter : String) : r.check value parameter policy = r.evaluate policy value parameter := by
  simp only [check, evaluate, Bounds.require, bounds]
  cases r.min.present with
  | none => rfl
  | some min =>
    cases r.max.present with
    | none => rfl
    | some max =>
      cases hnull : value.isNull with
      | true => simp [Value.present_of_isNull hnull]
      | false =>
        simp only [Value.present_of_isNull_eq_false hnull, List.find?_cons]
        cases value.isComparableWith min <;> cases value.isComparableWith max <;> simp

namespace Annotation

/-- The constructor of an error type that a use finds in its model. -/
def Use.constructor? (type : String) : Use → Option ErrorConstructor
  | .selfCheck _ c => c.usableConstructor? type
  | .validate _ _ _ => none

/-- The element types, bound and found, of a collection that a bound not-empty rule refuses. -/
def refused? (a : Annotation) : Value → Option (String × String)
  | .collection found _ =>
    a.specialization?.bind fun s => if found = s.element then none else some (s.element, found)
  | _ => none

end Annotation

/-- The policy of a configuration after a history: with an error type it is resolved by the first
check against a model in which the type can be constructed. -/
def FailureConfig.policyAfter (f : FailureConfig) (history : List Annotation.Use) :
    Except ConfigurationError FailurePolicy :=
  match f.errorType with
  | none => .ok (.resolve none f.message)
  | some type =>
    match history.findSome? fun use => use.constructor? type with
    | some k => .ok (.resolve (some k) f.message)
    | none => .error (.unresolvedErrorType type)

namespace Annotation

/-- With an error type a use gives the policy of the constructor that it finds. -/
theorem Use.policy?_of_errorType_some (use : Use) {f : FailureConfig} {type : String}
    (h : f.errorType = some type) :
    use.policy? f = (use.constructor? type).map fun k => .resolve (some k) f.message := by
  cases use <;> simp [policy?, constructor?, FailureConfig.policyIn?, FailureConfig.ownPolicy?, h]

/-- The policy of a fresh annotation after a history is that of its configuration. -/
theorem currentPolicy_after_fresh (rule : AnnotationRule) (failure : FailureConfig)
    (history : List Use) :
    ((fresh rule failure).after history).currentPolicy = failure.policyAfter history := by
  rw [currentPolicy_eq, after_policy?, after_failure]
  simp only [fresh, FailureConfig.policyAfter]
  cases ht : failure.errorType with
  | none =>
    have hown : failure.ownPolicy? = some (.resolve none failure.message) := by
      simp [FailureConfig.ownPolicy?, ht]
    rw [hown]
    cases hfound : history.findSome? (Use.policy? failure) with
    | none => rfl
    | some policy =>
      obtain ⟨use, -, hpolicy⟩ := List.exists_of_findSome?_eq_some hfound
      rw [use.policy?_of_errorType ht] at hpolicy
      simp [Option.some.inj hpolicy]
  | some type =>
    have hown : failure.ownPolicy? = none := by simp [FailureConfig.ownPolicy?, ht]
    have hgiven : history.findSome? (Use.policy? failure) =
        (history.findSome? (Use.constructor? type)).map
          fun k => .resolve (some k) failure.message := by
      rw [List.map_findSome?]
      congr 1
      funext use
      exact use.policy?_of_errorType_some ht
    rw [hgiven, hown]
    cases hfound : history.findSome? (Use.constructor? type) <;> simp [hfound]

/-- The compiled pattern at hand in a coherent annotation is what compiling gives. -/
theorem Coherent.currentRegex {a : Annotation} (h : a.Coherent) {r : PatternRule}
    (hrule : a.rule = .pattern r) : a.currentRegex r = r.compile := by
  unfold Annotation.currentRegex
  cases hregex : a.regex? with
  | none => rfl
  | some regex =>
    have hcompiled := h.regex regex hregex
    simp only [AnnotationRule.compiled?, hrule] at hcompiled
    cases hc : r.compile with
    | ok x =>
      rw [hc] at hcompiled
      exact congrArg Except.ok (Option.some.inj hcompiled).symm
    | error e =>
      rw [hc] at hcompiled
      contradiction

/-- Searching a value for a pattern is evaluating the pattern from its source. -/
theorem Coherent.judgePattern {a : Annotation} (h : a.Coherent) {r : PatternRule}
    (hrule : a.rule = .pattern r) (policy : FailurePolicy) (value : Value) (parameter : String) :
    a.judgePattern r value parameter policy = r.evaluate policy value parameter := by
  simp only [PatternRule.evaluate, Annotation.judgePattern, Rule.patternSource,
    h.currentRegex hrule, PatternRule.compile]
  cases r.options.compile r.pattern with
  | error e => cases value <;> rfl
  | ok regex => cases value <;> rfl

/-- Counting the elements of a value is evaluating the not-empty rule, but for collections of an
element type to which the annotation is not bound. -/
theorem Coherent.judgeNotEmpty {a : Annotation} (h : a.Coherent) {policy : FailurePolicy}
    (hpolicy : a.currentPolicy = .ok policy) (value : Value) (parameter : String) :
    a.judgeNotEmpty value parameter policy =
      match a.refused? value with
      | some (bound, found) => .error (.configuration (.elementTypeMismatch bound found))
      | none => AnnotationRule.notEmpty.evaluate policy value parameter := by
  cases value with
  | collection found items =>
    simp only [refused?, Annotation.judgeNotEmpty]
    cases hs : a.specialization? with
    | none => rfl
    | some s =>
      have hsame : s.policy = policy := by
        have hkept := (h.check s hs).2
        simpa [currentPolicy_eq, hkept] using hpolicy
      by_cases hfound : found = s.element
      · simp [SpecializedCheck.check, hfound, hsame, AnnotationRule.evaluate, Value.isNull,
          Value.count?]
      · simp [SpecializedCheck.check, hfound]
  | _ => rfl

/-- A coherent annotation with a policy judges as its rule is evaluated, but for collections that
it refuses. -/
theorem Coherent.judge_eq_evaluate {a : Annotation} (h : a.Coherent) {policy : FailurePolicy}
    (hpolicy : a.currentPolicy = .ok policy) (value : Value) (parameter : String) :
    a.judge value parameter =
      match a.refused? value with
      | some (bound, found) => .error (.configuration (.elementTypeMismatch bound found))
      | none => a.rule.evaluate policy value parameter := by
  have hunbound : a.rule ≠ .notEmpty → a.refused? value = none := by
    intro hrule
    unfold refused?
    cases hs : a.specialization? with
    | none => cases value <;> rfl
    | some s => exact absurd (h.check s hs).1 hrule
  simp only [judge, hpolicy]
  cases hrule : a.rule with
  | notEmpty => exact h.judgeNotEmpty hpolicy value parameter
  | notNull => rw [hunbound (by simp [hrule])]; rfl
  | interval r =>
    rw [hunbound (by simp [hrule])]
    exact r.check_eq_evaluate policy value parameter
  | pattern r =>
    rw [hunbound (by simp [hrule])]
    exact h.judgePattern hrule policy value parameter

/-- Judgements see of an annotation its rule, its policy, its specialized check and the compiled
pattern of its rule. -/
theorem judge_congr {a b : Annotation} (hrule : b.rule = a.rule)
    (hpolicy : b.currentPolicy = a.currentPolicy) (hcheck : b.specialization? = a.specialization?)
    (hregex : ∀ r, a.rule = .pattern r → b.currentRegex r = a.currentRegex r)
    (value : Value) (parameter : String) : b.judge value parameter = a.judge value parameter := by
  unfold judge
  rw [hrule, hpolicy]
  cases a.currentPolicy with
  | error e => rfl
  | ok policy =>
    cases h : a.rule with
    | notNull => rfl
    | interval r => rfl
    | notEmpty => simp only [judgeNotEmpty, hcheck]
    | pattern r => simp only [judgePattern, hregex r h]

/-- Filling an empty cell with the compiled pattern of the rule is not seen by judgements. -/
theorem currentRegex_fill (a : Annotation) {r : PatternRule} (hrule : a.rule = .pattern r)
    (policy? : Option FailurePolicy) (check? : Option SpecializedCheck) (filled : Bool) :
    (a.fill policy? check? (if filled then a.rule.compiled? else none)).currentRegex r =
      a.currentRegex r := by
  simp only [currentRegex, fill, AnnotationRule.compiled?, hrule]
  cases a.regex? with
  | some regex => rfl
  | none =>
    cases filled with
    | false => rfl
    | true => cases r.compile <;> simp [Except.toOption]

/-- What judging leaves behind is not seen by the judgements that follow. -/
theorem judge_settle (a : Annotation) (value : Value) (parameter : String) :
    a.settle.judge value parameter = a.judge value parameter := by
  have hpolicy : a.settle.currentPolicy = a.currentPolicy := by
    rw [settle_eq_fill]
    simp [currentPolicy_eq, fill, Option.or_assoc]
  have hcheck : a.settle.specialization? = a.specialization? := by
    rw [settle_eq_fill]
    simp [fill]
  have hregex : ∀ r, a.rule = .pattern r → a.settle.currentRegex r = a.currentRegex r := by
    intro r hrule
    rw [settle_eq_fill]
    exact a.currentRegex_fill hrule _ _ _
  have hrule : a.settle.rule = a.rule := by rw [settle_eq_fill]; rfl
  exact judge_congr hrule hpolicy hcheck hregex value parameter

/-- Where a specialized check is meant to be asked, on null and on collections of its element type,
it says what counting elements without it says. -/
theorem Coherent.check_eq_judge {a : Annotation} (h : a.Coherent) {s : SpecializedCheck}
    (hs : a.specialization? = some s) {value : Value}
    (hvalue : value = .null ∨ ∃ items, value = .collection s.element items) (parameter : String) :
    s.check value parameter = { a with specialization? := none }.judge value parameter := by
  obtain ⟨hrule, hpolicy⟩ := h.check s hs
  rcases hvalue with rfl | ⟨items, rfl⟩
  · simp [SpecializedCheck.check, judge, currentPolicy, hpolicy, hrule, Annotation.judgeNotEmpty]
  · simp [SpecializedCheck.check, judge, currentPolicy, hpolicy, hrule, Annotation.judgeNotEmpty]

/-- Kept results are never seen. Whatever an annotation was used for, in whatever order, no result
that it keeps is ever replaced, and it judges a value as its rule is evaluated under its policy,
with the one exception of a collection that a bound not-empty rule refuses. On null and on the
collections that it is bound to, the specialized check agrees with the general one. -/
theorem validate_transparent (rule : AnnotationRule) (failure : FailureConfig)
    (history later : List Use) :
    ((fresh rule failure).after history).Extends ((fresh rule failure).after (history ++ later)) ∧
    (∀ target value parameter,
      (Validator.validate ((fresh rule failure).after history) target value parameter).1 =
        match failure.policyAfter history with
        | .error e => .error (.configuration e)
        | .ok policy =>
          match ((fresh rule failure).after history).refused? value with
          | some (bound, found) => .error (.configuration (.elementTypeMismatch bound found))
          | none => rule.evaluate policy value parameter) ∧
    (∀ s, ((fresh rule failure).after history).specialization? = some s →
      rule = .notEmpty ∧ failure.policyAfter history = .ok s.policy ∧
      ∀ value, (value = .null ∨ ∃ items, value = .collection s.element items) → ∀ parameter,
        s.check value parameter =
          { (fresh rule failure).after history with specialization? := none }.judge
            value parameter) := by
  have hcoherent := (coherent_fresh rule failure).after history
  have hpolicy := currentPolicy_after_fresh rule failure history
  refine ⟨?_, ?_, ?_⟩
  · rw [after_append]
    exact extends_after _ later
  · intro target value parameter
    change ((fresh rule failure).after history).judge value parameter = _
    rw [← hpolicy]
    cases hcurrent : ((fresh rule failure).after history).currentPolicy with
    | error e => simp [judge, hcurrent]
    | ok policy => simpa [fresh] using hcoherent.judge_eq_evaluate hcurrent value parameter
  · intro s hs
    obtain ⟨hrule, hkept⟩ := hcoherent.check s hs
    refine ⟨by simpa [fresh] using hrule, ?_, fun value hvalue parameter =>
      hcoherent.check_eq_judge hs hvalue parameter⟩
    rw [← hpolicy, currentPolicy, hkept]

/-- A not-empty rule that was checked at a parameter of orders is bound to them, and its specialized
check says of a collection of orders what the general check says. -/
theorem validate_transparent_orders :
    let site := Site.parameter ⟨"Shop", "place", [⟨0, "orders"⟩]⟩ ⟨0, "orders"⟩ "Orders"
    let a := (fresh .notEmpty {}).after [.selfCheck site .shop]
    a.specialization? = some ⟨"Order", .standard⟩ ∧
      SpecializedCheck.check ⟨"Order", .standard⟩ (.collection "Order" []) "orders" =
        { a with specialization? := none }.judge (.collection "Order" []) "orders" := by
  intro site a
  have hbound : a.specialization? = some ⟨"Order", .standard⟩ := rfl
  obtain ⟨-, -, hagree⟩ :=
    (validate_transparent .notEmpty {} [.selfCheck site .shop] []).2.2 _ hbound
  exact ⟨hbound, hagree _ (.inr ⟨[], rfl⟩) "orders"⟩

end Annotation

end Contracts
