import Contracts.Proofs.Annotation.Admission
import Contracts.Proofs.Annotation.Transparency

/-!
# Annotations that are ready to judge

An annotation is ready when its policy is known, the bounds of its interval can be compared and its
pattern is compiled. A self-check at a declared type that writes nothing leaves a ready annotation,
and no later use changes that. A ready annotation answers with a configuration error only when the
value has a shape that the rule cannot deal with.
-/

namespace Contracts

/-- Whether an error is a fault of the annotation, whatever the value. -/
def ConfigurationError.isSetup : ConfigurationError → Bool
  | .missingBound _ => true
  | .emptyPattern => true
  | .invalidPattern _ => true
  | .unresolvedErrorType _ => true
  | .incomparableBounds _ _ => false
  | .valueMismatch _ _ => false
  | .elementTypeMismatch _ _ => false

/-- Reporting a broken rule is never a configuration error. -/
theorem FailurePolicy.report_ne_configuration (policy : FailurePolicy) (kind : ViolationKind)
    (parameter text : String) (e : ConfigurationError) :
    policy.report kind parameter text ≠ .configuration e := by
  cases policy <;> simp [report, Failure.ofParameter]

namespace Rule

/-- Adding the bounds to a failure makes no configuration error of it. -/
theorem withInterval_eq_configuration_iff (failure : Failure) (min max value : Value)
    (e : ConfigurationError) :
    withInterval failure min max value = .configuration e ↔ failure = .configuration e := by
  cases failure <;> simp [withInterval]

/-- With both bounds present the interval is never misconfigured. -/
theorem interval_ne_configuration (value : Option Value) {bounds : Bounds} {min max : Value}
    (hbounds : bounds.require = .ok (min, max)) (parameter : String) (policy : FailurePolicy)
    (kind : ViolationKind) (e : ConfigurationError) :
    interval value bounds parameter (policy.report kind parameter) ≠
      .error (.configuration e) := by
  unfold interval
  rw [hbounds]
  cases value with
  | none => simp
  | some v =>
    dsimp only
    split
    · simp
    · simp [withInterval_eq_configuration_iff, policy.report_ne_configuration]

/-- Counting elements is never misconfigured. -/
theorem notEmpty_ne_configuration (count : Option Nat) (parameter : String)
    (policy : FailurePolicy) (kind : ViolationKind) (e : ConfigurationError) :
    notEmpty count parameter (policy.report kind parameter) ≠ .error (.configuration e) := by
  unfold notEmpty
  split
  · simp [policy.report_ne_configuration]
  · simp

/-- Searching for a compiled pattern is never misconfigured. -/
theorem pattern_ne_configuration (value : Option String) (regex : Regex) (parameter : String)
    (policy : FailurePolicy) (kind : ViolationKind) (e : ConfigurationError) :
    pattern value (some regex) parameter (policy.report kind parameter) ≠
      .error (.configuration e) := by
  unfold pattern
  cases value with
  | none => simp
  | some text =>
    dsimp only
    split
    · simp
    · simp [policy.report_ne_configuration]

/-- Asking for a value is never misconfigured. -/
theorem notNull_ne_configuration (value : Option Value) (parameter : String)
    (policy : FailurePolicy) (kind : ViolationKind) (e : ConfigurationError) :
    notNull value parameter (policy.report kind parameter) ≠ .error (.configuration e) := by
  unfold notNull
  cases value <;> simp [policy.report_ne_configuration]

end Rule

namespace Value

/-- Values that can be compared with each other can be compared with the same values. -/
theorem isComparableWith_congr {a b : Value} (h : a.isComparableWith b = true) (v : Value) :
    v.isComparableWith a = v.isComparableWith b := by
  unfold isComparableWith at h ⊢
  cases ha : a.scale? with
  | none => simp [ha] at h
  | some s =>
    cases hb : b.scale? with
    | none => simp [ha, hb] at h
    | some t =>
      have hst : s = t := by simpa [ha, hb] using h
      rw [hst]

/-- A value that can be compared with another one is there. -/
theorem isNull_of_isComparableWith {a b : Value} (h : a.isComparableWith b = true) :
    a.isNull = false ∧ b.isNull = false := by
  constructor
  · cases a <;> simp_all [isComparableWith, scale?, isNull]
  · cases b <;> cases ha : a.scale? <;> simp_all [isComparableWith, scale?, isNull]

end Value

/-- An interval without problems has comparable bounds. -/
theorem IntervalRule.isComparableWith_of_messages {r : IntervalRule} (h : r.messages = []) :
    r.min.isComparableWith r.max = true := by
  unfold IntervalRule.messages at h
  cases hcomparable : r.min.isComparableWith r.max with
  | true => rfl
  | false =>
    simp only [hcomparable] at h
    split at h
    · contradiction
    · split at h <;> contradiction

namespace Annotation

/-- All that judging needs of the annotation is at hand. -/
structure Ready (a : Annotation) : Prop where
  policy : a.policy?.isSome
  bounds : ∀ r, a.rule = .interval r → r.min.isComparableWith r.max = true
  regex : ∀ r, a.rule = .pattern r → a.regex?.isSome

/-- The value has a shape that the rule cannot deal with, and the error says so. -/
inductive Misfit (a : Annotation) (value : Value) : ConfigurationError → Prop where
  /-- A present value that cannot be compared with the bounds of an interval. -/
  | incomparable {r : IntervalRule} (rule : a.rule = .interval r) (present : value.isNull = false)
    (alien : value.isComparableWith r.min = false) :
    Misfit a value (.incomparableBounds value.kind r.min.kind)
  /-- A present value whose elements cannot be counted. -/
  | uncountable (rule : a.rule = .notEmpty) (present : value.isNull = false)
    (alien : value.count? = none) : Misfit a value (.valueMismatch "text or collection" value.kind)
  /-- A present value that is no text. -/
  | textless {r : PatternRule} (rule : a.rule = .pattern r) (present : value.isNull = false)
    (alien : value.text? = none) : Misfit a value (.valueMismatch "text" value.kind)
  /-- A collection of an element type other than the one that the annotation is bound to. -/
  | foreign {s : SpecializedCheck} {found : String} {items : List Value} (rule : a.rule = .notEmpty)
    (bound : a.specialization? = some s) (collection : value = .collection found items)
    (alien : found ≠ s.element) : Misfit a value (.elementTypeMismatch s.element found)

/-- A misfit is no fault of the annotation. -/
theorem Misfit.isSetup {a : Annotation} {value : Value} {e : ConfigurationError}
    (h : a.Misfit value e) : e.isSetup = false := by
  cases h <;> rfl

/-- An annotation that is ready stays so. -/
theorem Ready.extends {a b : Annotation} (h : a.Ready) (hab : a.Extends b) : b.Ready where
  policy := by
    obtain ⟨policy, hp⟩ := Option.isSome_iff_exists.mp h.policy
    simp [hab.policy policy hp]
  bounds r hr := h.bounds r (hab.rule.symm.trans hr)
  regex r hr := by
    obtain ⟨regex, hx⟩ := Option.isSome_iff_exists.mp (h.regex r (hab.rule.symm.trans hr))
    simp [hab.regex regex hx]

/-- With comparable bounds an interval is misconfigured only for values of another scale. -/
theorem Ready.interval_configuration_iff {a : Annotation} (h : a.Ready) {r : IntervalRule}
    (hrule : a.rule = .interval r) (policy : FailurePolicy) (value : Value) (parameter : String)
    (e : ConfigurationError) :
    r.check value parameter policy = .error (.configuration e) ↔ a.Misfit value e := by
  have hbounds := h.bounds r hrule
  obtain ⟨hmin, hmax⟩ := Value.isNull_of_isComparableWith hbounds
  have hrequire : r.bounds.require = .ok (r.min, r.max) := by
    simp [Bounds.require, IntervalRule.bounds, Value.present_of_isNull_eq_false hmin,
      Value.present_of_isNull_eq_false hmax]
  rw [r.check_eq_evaluate]
  simp only [IntervalRule.evaluate, Value.present_of_isNull_eq_false hmin,
    Value.present_of_isNull_eq_false hmax, ← Value.isComparableWith_congr hbounds value]
  constructor
  · intro hjudged
    split at hjudged
    · rename_i halien
      obtain ⟨hpresent, hscale⟩ : value.isNull = false ∧ value.isComparableWith r.min = false := by
        simpa using halien
      obtain rfl : _ = e := by simpa using hjudged
      exact .incomparable hrule hpresent hscale
    · exact absurd hjudged (Rule.interval_ne_configuration _ hrequire _ _ _ _)
  · intro hmisfit
    cases hmisfit with
    | incomparable rule present alien =>
      obtain rfl : r = _ := AnnotationRule.interval.inj (hrule.symm.trans rule)
      simp [present, alien]
    | uncountable rule => simp [hrule] at rule
    | textless rule => simp [hrule] at rule
    | foreign rule => simp [hrule] at rule

/-- A compiled pattern is misconfigured only for values that are neither absent nor text. -/
theorem Ready.pattern_configuration_iff {a : Annotation} (h : a.Ready) {r : PatternRule}
    (hrule : a.rule = .pattern r) (policy : FailurePolicy) (value : Value) (parameter : String)
    (e : ConfigurationError) :
    a.judgePattern r value parameter policy = .error (.configuration e) ↔ a.Misfit value e := by
  obtain ⟨regex, hregex⟩ := Option.isSome_iff_exists.mp (h.regex r hrule)
  have hmisfit : a.Misfit value e ↔
      value.isNull = false ∧ value.text? = none ∧ e = .valueMismatch "text" value.kind := by
    constructor
    · intro hmisfit
      cases hmisfit with
      | textless rule present alien => exact ⟨present, alien, rfl⟩
      | incomparable rule => simp [hrule] at rule
      | uncountable rule => simp [hrule] at rule
      | foreign rule => simp [hrule] at rule
    · rintro ⟨hpresent, halien, rfl⟩
      exact .textless hrule hpresent halien
  rw [hmisfit]
  simp only [judgePattern, currentRegex, hregex]
  cases value with
  | null => simp [Value.isNull, Rule.pattern_ne_configuration]
  | text s => simp [Value.text?, Rule.pattern_ne_configuration]
  | _ => simp [Value.isNull, Value.text?, eq_comm]

/-- Counting elements is misconfigured only for values without a count and for collections of an
element type that the annotation is not bound to. -/
theorem notEmpty_configuration_iff {a : Annotation} (hrule : a.rule = .notEmpty)
    (policy : FailurePolicy) (value : Value) (parameter : String) (e : ConfigurationError) :
    a.judgeNotEmpty value parameter policy = .error (.configuration e) ↔ a.Misfit value e := by
  have hmisfit : a.Misfit value e ↔
      (value.isNull = false ∧ value.count? = none ∧
        e = .valueMismatch "text or collection" value.kind) ∨
      (∃ s found items, a.specialization? = some s ∧ value = .collection found items ∧
        found ≠ s.element ∧ e = .elementTypeMismatch s.element found) := by
    constructor
    · intro hmisfit
      cases hmisfit with
      | uncountable rule present alien => exact .inl ⟨present, alien, rfl⟩
      | foreign rule bound collection alien =>
        exact .inr ⟨_, _, _, bound, collection, alien, rfl⟩
      | incomparable rule => simp [hrule] at rule
      | textless rule => simp [hrule] at rule
    · rintro (⟨hpresent, halien, rfl⟩ | ⟨s, found, items, hbound, hvalue, halien, rfl⟩)
      · exact .uncountable hrule hpresent halien
      · exact .foreign hrule hbound hvalue halien
  rw [hmisfit]
  cases value with
  | collection found items =>
    simp only [judgeNotEmpty, Value.isNull, Value.count?]
    cases hs : a.specialization? with
    | none => simp [Rule.notEmpty_ne_configuration]
    | some s =>
      by_cases hfound : found = s.element
      · simp [SpecializedCheck.check, hfound, Rule.notEmpty_ne_configuration]
      · simp [SpecializedCheck.check, hfound, eq_comm]
  | null => simp [judgeNotEmpty, Value.isNull]
  | text s => simp [judgeNotEmpty, Value.count?, Rule.notEmpty_ne_configuration]
  | list items => simp [judgeNotEmpty, Value.count?, Rule.notEmpty_ne_configuration]
  | map entries => simp [judgeNotEmpty, Value.count?, Rule.notEmpty_ne_configuration]
  | _ => simp [judgeNotEmpty, Value.isNull, Value.count?, eq_comm]

/-- A ready annotation answers with a configuration error exactly when the value is a misfit. -/
theorem Ready.judge_configuration_iff {a : Annotation} (h : a.Ready) (value : Value)
    (parameter : String) (e : ConfigurationError) :
    a.judge value parameter = .error (.configuration e) ↔ a.Misfit value e := by
  obtain ⟨policy, hpolicy⟩ := Option.isSome_iff_exists.mp h.policy
  simp only [judge, currentPolicy, hpolicy]
  cases hrule : a.rule with
  | interval r => exact h.interval_configuration_iff hrule policy value parameter e
  | pattern r => exact h.pattern_configuration_iff hrule policy value parameter e
  | notEmpty => exact notEmpty_configuration_iff hrule policy value parameter e
  | notNull =>
    simp only [Rule.notNull_ne_configuration, false_iff]
    intro hmisfit
    cases hmisfit with
    | incomparable rule => simp [hrule] at rule
    | uncountable rule => simp [hrule] at rule
    | textless rule => simp [hrule] at rule
    | foreign rule => simp [hrule] at rule

/-- Checking an interval rule against a type quietly finds nothing wrong with the bounds. -/
theorem messages_of_checkType_interval {a : Annotation} {r : IntervalRule}
    (hrule : a.rule = .interval r) {site : Site} {type : String} {c : Catalogue}
    (h : (a.checkType site type c).1.messages = []) : r.messages = [] := by
  unfold checkType at h
  simp only [hrule, Trace.messages_append, List.append_eq_nil_iff] at h
  rw [← a.boundProblems_messages r hrule]
  exact h.2

/-- Checking a pattern rule against a type quietly has the pattern compiled. -/
theorem regex_of_checkType_pattern {a : Annotation} {r : PatternRule}
    (hrule : a.rule = .pattern r) {site : Site} {type : String} {c : Catalogue}
    (h : (a.checkType site type c).1.messages = []) :
    (a.regex?.or r.compile.toOption).isSome := by
  unfold checkType at h
  simp only [hrule, Trace.messages_append, List.append_eq_nil_iff] at h
  have hprepared := h.2
  unfold preparePattern at hprepared
  cases hx : a.regex? with
  | some regex => rfl
  | none =>
    rw [hx] at hprepared
    cases hc : r.compile with
    | ok regex => rfl
    | error e =>
      rw [hc] at hprepared
      cases e <;> simp [Trace.messages, Trace.message?, complain] at hprepared

/-- A self-check at a declared type that writes nothing leaves a ready annotation. -/
theorem ready_of_selfCheck (a : Annotation) {site : Site} {c : Catalogue}
    (hknown : site.isKnown c = true) (hquiet : (a.selfCheck site c).1.messages = []) :
    (a.selfCheck site c).2.Ready := by
  obtain ⟨type, htype, hdecl⟩ : ∃ type, site.declaredType? = some type ∧ (c.decl? type).isSome := by
    simpa [Site.isKnown, Option.any_eq_true] using hknown
  obtain ⟨d, hd⟩ := Option.isSome_iff_exists.mp hdecl
  have hparts : (a.selfCheck site c).1 =
      (a.resolvePolicy c).1 ++ ((a.resolvePolicy c).2.checkType site type c).1 := by
    simp [selfCheck, htype, hd]
  rw [hparts, Trace.messages_append, List.append_eq_nil_iff, resolvePolicy_messages,
    resolvePolicy_snd] at hquiet
  obtain ⟨hresolved, hchecked⟩ := hquiet
  rw [selfCheck_snd, hknown]
  refine ⟨?_, ?_, ?_⟩
  · cases hp : a.policy? with
    | some policy => simp [fill, hp]
    | none =>
      rw [hp] at hresolved
      have hin := (a.failure.messages_eq_nil_iff a.rule c).mp hresolved
      simpa [fill, hp] using hin
  · intro r hrule
    have hkept : (a.fill (a.failure.policyIn? c) none none).rule = .interval r := hrule
    exact IntervalRule.isComparableWith_of_messages (messages_of_checkType_interval hkept hchecked)
  · intro r hrule
    have hkept : (a.fill (a.failure.policyIn? c) none none).rule = .pattern r := hrule
    have hregex := regex_of_checkType_pattern hkept hchecked
    simpa [fill, AnnotationRule.compiled?, show a.rule = .pattern r from hrule] using hregex

end Annotation

end Contracts
