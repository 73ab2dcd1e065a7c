import Contracts.Proofs.Annotation.Readiness
import Contracts.Proofs.Rule.Forms

/-!
# Annotations that are misconfigured

Some faults lie with the annotation and not with the value: an error type that was not resolved, a
bound that is absent, a pattern that is empty or does not compile. Whether an annotation has one,
and which, follows from the annotation alone. It answers with it to every value, null and values of
the wrong shape included, and answers so to none without it. The rules on their own are
misconfigured in the same way, for all values or for none.
-/

namespace Contracts

namespace ConfigurationError

variable {α : Type} {result : Except ConfigurationError α}

/-- The error instead of a result. -/
def instead? : Except ConfigurationError α → Option ConfigurationError
  | .error e => some e
  | .ok _ => none

/-- There is an error instead of a result. -/
theorem instead?_eq_some_iff {e : ConfigurationError} :
    instead? result = some e ↔ result = .error e := by
  cases result <;> simp [instead?]

/-- There is no error but a result. -/
theorem instead?_eq_none_iff : instead? result = none ↔ ∃ a, result = .ok a := by
  cases result <;> simp [instead?]

end ConfigurationError

/-- Without a lower bound an interval lacks that one, whether or not there is an upper bound. -/
theorem IntervalRule.require_of_isNull {r : IntervalRule} (h : r.min.isNull = true) :
    r.bounds.require = .error (.missingBound .min) := by
  rw [Bounds.require, bounds, Value.present_of_isNull h]

/-- With both bounds present only values that cannot be compared with them are misconfigured. -/
theorem IntervalRule.isSetup_eq_false_of_check {r : IntervalRule} {min max value : Value}
    (hbounds : r.bounds.require = .ok (min, max)) {policy : FailurePolicy} {parameter : String}
    {e : ConfigurationError} (h : r.check value parameter policy = .error (.configuration e)) :
    e.isSetup = false := by
  unfold check at h
  rw [hbounds] at h
  dsimp only at h
  split at h
  · cases h
    rfl
  · exact absurd h (Rule.interval_ne_configuration _ hbounds _ _ _ _)

namespace Annotation

variable {a : Annotation} {value : Value} {parameter : String} {e : ConfigurationError}

/-- What is wrong with the rule of an annotation. -/
def ruleFault? (a : Annotation) : Option ConfigurationError :=
  match a.rule with
  | .interval r => ConfigurationError.instead? r.bounds.require
  | .pattern r => ConfigurationError.instead? (a.currentRegex r)
  | _ => none

/-- What is wrong with an annotation: its error type before its rule. -/
def fault? (a : Annotation) : Option ConfigurationError :=
  match a.currentPolicy with
  | .error e => some e
  | .ok _ => a.ruleFault?

/-- A misfit with a compiled pattern is no fault of the annotation. -/
theorem isSetup_eq_false_of_judgePattern {r : PatternRule} {regex : Regex}
    (hregex : a.currentRegex r = .ok regex) {policy : FailurePolicy}
    (h : a.judgePattern r value parameter policy = .error (.configuration e)) :
    e.isSetup = false := by
  unfold judgePattern at h
  rw [hregex] at h
  dsimp only at h
  split at h
  · exact absurd h (Rule.pattern_ne_configuration _ _ _ _ _ _)
  · exact absurd h (Rule.pattern_ne_configuration _ _ _ _ _ _)
  · cases h
    rfl

/-- An annotation with a fault answers with it to every value. -/
theorem judge_of_fault? (h : a.fault? = some e) (value : Value) (parameter : String) :
    a.judge value parameter = .error (.configuration e) := by
  unfold fault? ruleFault? at h
  unfold judge
  cases hpolicy : a.currentPolicy with
  | error unresolved =>
    rw [hpolicy] at h
    rw [Option.some.inj h]
  | ok policy =>
    rw [hpolicy] at h
    cases hrule : a.rule with
    | interval r =>
      rw [hrule] at h
      have hmissing := ConfigurationError.instead?_eq_some_iff.mp h
      simp only [IntervalRule.check, hmissing]
    | pattern r =>
      rw [hrule] at h
      have hunreadable := ConfigurationError.instead?_eq_some_iff.mp h
      simp only [judgePattern, hunreadable]
    | notNull =>
      rw [hrule] at h
      contradiction
    | notEmpty =>
      rw [hrule] at h
      contradiction

/-- An annotation without a fault answers with errors that say something about the value. -/
theorem isSetup_eq_false_of_judge (hfault : a.fault? = none)
    (h : a.judge value parameter = .error (.configuration e)) : e.isSetup = false := by
  unfold fault? ruleFault? at hfault
  unfold judge at h
  cases hpolicy : a.currentPolicy with
  | error unresolved =>
    rw [hpolicy] at hfault
    contradiction
  | ok policy =>
    rw [hpolicy] at hfault h
    cases hrule : a.rule with
    | interval r =>
      rw [hrule] at hfault h
      obtain ⟨ends, hbounds⟩ := ConfigurationError.instead?_eq_none_iff.mp hfault
      exact IntervalRule.isSetup_eq_false_of_check hbounds h
    | pattern r =>
      rw [hrule] at hfault h
      obtain ⟨regex, hregex⟩ := ConfigurationError.instead?_eq_none_iff.mp hfault
      exact isSetup_eq_false_of_judgePattern hregex h
    | notNull =>
      rw [hrule] at h
      exact absurd h (Rule.notNull_ne_configuration _ _ _ _ _)
    | notEmpty =>
      rw [hrule] at h
      exact ((notEmpty_configuration_iff hrule policy value parameter e).mp h).isSetup

/-- The faults of an annotation are its answers to every value, whatever the value is. -/
theorem judge_eq_fault_iff (he : e.isSetup = true) (value : Value) (parameter : String) :
    a.judge value parameter = .error (.configuration e) ↔ a.fault? = some e := by
  constructor
  · intro h
    cases hfault : a.fault? with
    | some fault =>
      have hanswer := (judge_of_fault? hfault value parameter).symm.trans h
      simpa using hanswer
    | none =>
      rw [isSetup_eq_false_of_judge hfault h] at he
      contradiction
  · intro hfault
    exact judge_of_fault? hfault value parameter

/-- An annotation with a fault has no pattern to compile: there is no policy, or the pattern does
not compile, or there is none. -/
theorem compiled?_of_fault? (h : a.fault? = some e) (hkept : a.regex? = none) :
    (if (a.policy?.or a.failure.ownPolicy?).isSome then a.rule.compiled? else none) = none := by
  rw [← currentPolicy_toOption]
  unfold fault? ruleFault? at h
  cases hpolicy : a.currentPolicy with
  | error unresolved => rfl
  | ok policy =>
    rw [hpolicy] at h
    cases hrule : a.rule with
    | pattern r =>
      have hcompile : a.currentRegex r = r.compile := by rw [currentRegex, hkept]
      rw [hrule] at h
      have hunreadable := ConfigurationError.instead?_eq_some_iff.mp h
      rw [hcompile] at hunreadable
      simp only [AnnotationRule.compiled?, hunreadable]
      rfl
    | _ => rfl

/-- A fault leaves the specialized check and the compiled pattern as they were. -/
theorem settle_of_fault? (h : a.fault? = some e) :
    a.settle.specialization? = a.specialization? ∧ a.settle.regex? = a.regex? := by
  rw [settle_eq_fill]
  refine ⟨Option.or_none, ?_⟩
  cases hkept : a.regex? with
  | some regex => simp [fill, hkept]
  | none => simp only [fill, hkept, Option.none_or, compiled?_of_fault? h hkept]

end Annotation

namespace Rule.Primitive

/-- A rule on its own is misconfigured where it answers with an error without having a failure
made. -/
theorem checkRecording_eq_configuration_iff (p : Primitive) (parameter : String) (report : Report)
    (e : ConfigurationError) :
    p.checkRecording parameter report = (.error (.configuration e), []) ↔ p.verdict = .error e := by
  rw [checkRecording_eq, check_eq, isBroken]
  rcases p.verdict with fault | (_ | _)
  · simp
  · simp
  · simp

/-- What is added to a breach leaves it one. -/
theorem isBreach_decorate (p : Primitive) (failure : Failure) :
    (p.decorate failure).isBreach = failure.isBreach := by
  unfold decorate
  split
  · cases failure <;> rfl
  · rfl

/-- Where only breaches are reported, a misconfigured rule is one that answers with a configuration
error. -/
theorem check_eq_configuration_iff (p : Primitive) (parameter : String) {report : Report}
    (hreport : ∀ text, (report text).isBreach = true) (e : ConfigurationError) :
    p.check parameter report = .error (.configuration e) ↔ p.verdict = .error e := by
  rw [check_eq]
  rcases p.verdict with fault | (_ | _)
  · simp
  · have hbreach := (p.isBreach_decorate _).trans (hreport (p.ownText parameter))
    have hother : p.decorate (report (p.ownText parameter)) ≠ .configuration e := by
      intro hsame
      rw [hsame] at hbreach
      contradiction
    simp [hother]
  · simp

/-- Two rules are misconfigured alike, with the same errors, whatever the parameter and the report
of a breach. -/
def MisconfiguredAlike (p q : Primitive) : Prop :=
  ∀ e parameter parameter' report report',
    (p.checkRecording parameter report = (.error (.configuration e), []) ↔
      q.checkRecording parameter' report' = (.error (.configuration e), [])) ∧
    ((∀ text, (report text).isBreach = true) → (∀ text, (report' text).isBreach = true) →
      (p.check parameter report = .error (.configuration e) ↔
        q.check parameter' report' = .error (.configuration e)))

/-- Rules whose verdicts are the same errors are misconfigured alike. -/
theorem misconfiguredAlike_of_verdict {p q : Primitive}
    (h : ∀ e, p.verdict = .error e ↔ q.verdict = .error e) : p.MisconfiguredAlike q := by
  intro e parameter parameter' report report'
  refine ⟨?_, fun hreport hreport' => ?_⟩
  · rw [checkRecording_eq_configuration_iff, checkRecording_eq_configuration_iff, h]
  · rw [check_eq_configuration_iff _ _ hreport, check_eq_configuration_iff _ _ hreport', h]

/-- The verdict of an interval is an error where a bound is absent, for every value. -/
theorem verdict_interval_eq_error_iff (value : Option Value) (bounds : Bounds)
    (e : ConfigurationError) :
    (interval value bounds).verdict = .error e ↔ bounds.require = .error e := by
  cases value with
  | none => cases hbounds : bounds.require <;> simp [verdict, hbounds, Except.map]
  | some v => cases hbounds : bounds.require <;> simp [verdict, Bounds.contains, hbounds]

/-- The verdict of a pattern that is yet to be compiled is an error where there is none or it does
not compile, for every text. -/
theorem verdict_patternSource_eq_error_iff (value source : Option String) (options : PatternOptions)
    (e : ConfigurationError) :
    (patternSource value source options).verdict = .error e ↔
      match source with
      | none => ConfigurationError.emptyPattern = e
      | some source => options.compile source = .error e := by
  cases source with
  | none => simp [verdict]
  | some source =>
    cases hcompiled : options.compile source <;> simp [verdict, hcompiled, Except.map]

end Rule.Primitive

namespace Annotation

/-- Misconfiguration does not depend on the value. An annotation, in whatever state, answers to all
values or to none with a given fault: an error type that was not resolved, an absent bound, an empty
or unreadable pattern. An unresolved error type comes before what is wrong with the rule, and an
absent lower bound before an absent upper one. Such an answer leaves the specialized check and the
compiled pattern as they were. The rules on intervals and on patterns that are yet to be compiled,
asked without an annotation, are misconfigured alike for all values. -/
theorem misconfigured_for_all_values :
    (∀ (a : Annotation) (e : ConfigurationError), e.isSetup = true →
      ∀ target target' value value' parameter parameter',
        (Validator.validate a target value parameter).1 = .error (.configuration e) ↔
          (Validator.validate a target' value' parameter').1 = .error (.configuration e)) ∧
    (∀ (a : Annotation) type, a.policy? = none → a.failure.errorType = some type →
      ∀ target value parameter, (Validator.validate a target value parameter).1 =
        .error (.configuration (.unresolvedErrorType type))) ∧
    (∀ (a : Annotation) policy r, a.currentPolicy = .ok policy → a.rule = .interval r →
      r.min.isNull = true → ∀ target value parameter,
        (Validator.validate a target value parameter).1 =
          .error (.configuration (.missingBound .min))) ∧
    (∀ (a : Annotation) (e : ConfigurationError) target value parameter, e.isSetup = true →
      (Validator.validate a target value parameter).1 = .error (.configuration e) →
      (Validator.validate a target value parameter).2.specialization? = a.specialization? ∧
        (Validator.validate a target value parameter).2.regex? = a.regex?) ∧
    (∀ bounds value value',
      (Rule.Primitive.interval value bounds).MisconfiguredAlike (.interval value' bounds)) ∧
    ∀ source options text text',
      (Rule.Primitive.patternSource text source options).MisconfiguredAlike
        (.patternSource text' source options) := by
  refine ⟨?_, ?_, ?_, ?_, ?_, ?_⟩
  · intro a e he _ _ value value' parameter parameter'
    exact (judge_eq_fault_iff he value parameter).trans
      (judge_eq_fault_iff he value' parameter').symm
  · intro a type hpolicy htype _ value parameter
    have hfault : a.fault? = some (.unresolvedErrorType type) := by
      rw [fault?, currentPolicy, hpolicy, htype]
    exact judge_of_fault? hfault value parameter
  · intro a policy r hpolicy hrule hmin _ value parameter
    have hfault : a.fault? = some (.missingBound .min) := by
      rw [fault?, hpolicy, ruleFault?, hrule]
      exact congrArg ConfigurationError.instead? (IntervalRule.require_of_isNull hmin)
    exact judge_of_fault? hfault value parameter
  · intro a e _ value parameter he hanswer
    exact settle_of_fault? ((judge_eq_fault_iff he value parameter).mp hanswer)
  · intro bounds value value'
    refine Rule.Primitive.misconfiguredAlike_of_verdict fun e => ?_
    rw [Rule.Primitive.verdict_interval_eq_error_iff, Rule.Primitive.verdict_interval_eq_error_iff]
  · intro source options text text'
    refine Rule.Primitive.misconfiguredAlike_of_verdict fun e => ?_
    rw [Rule.Primitive.verdict_patternSource_eq_error_iff,
      Rule.Primitive.verdict_patternSource_eq_error_iff]

/-- An interval without bounds answers to a list as to null, that its lower bound is absent; with an
error type it answers that this one was not resolved. An empty pattern answers all texts alike. -/
theorem misconfigured_for_all_values_unbounded :
    let r : IntervalRule := ⟨.null, .inclusive, .null, .exclusive⟩
    let a := fresh (.interval r) {}
    let b := fresh (.interval r) ⟨some "RangeError", none⟩
    (Validator.validate a none (.list []) "total").1 =
        .error (.configuration (.missingBound .min)) ∧
      (Validator.validate a none .null "total").1 = .error (.configuration (.missingBound .min)) ∧
      (Validator.validate a none (.list []) "total").2.regex? = none ∧
      (Validator.validate b none (.list []) "total").1 =
        .error (.configuration (.unresolvedErrorType "RangeError")) ∧
      (Rule.Primitive.patternSource (some "x") (some "") {}).checkDefault "code" =
        .error (.configuration .emptyPattern) := by
  intro r a b
  obtain ⟨hvalues, hunresolved, hmin, hkept, -, hpatterns⟩ := misconfigured_for_all_values
  have hlist : (Validator.validate a none (.list []) "total").1 =
      .error (.configuration (.missingBound .min)) := hmin a .standard r rfl rfl rfl _ _ _
  have hnull :=
    (hvalues a (.missingBound .min) rfl none none (.list []) .null "total" "total").mp hlist
  have hregex := (hkept a _ none (.list []) "total" rfl hlist).2
  have hbreach (text : String) :
      (Failure.ofParameter Rule.patternKind "code" text).isBreach = true := rfl
  have habsent : (Rule.Primitive.patternSource none (some "") {}).checkDefault "code" =
      .error (.configuration .emptyPattern) := rfl
  have hempty := ((hpatterns (some "") {} none (some "x") _ "code" "code" _ _).2 hbreach hbreach).mp
    habsent
  exact ⟨hlist, hnull, hregex, hunresolved b "RangeError" rfl rfl none (.list []) "total", hempty⟩

end Annotation

end Contracts
