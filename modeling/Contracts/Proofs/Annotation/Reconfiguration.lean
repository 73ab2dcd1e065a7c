import Contracts.Proofs.Annotation.Transparency

/-!
# Annotations whose failure configuration changes

Between its uses an annotation can be given another message or another error type. What it reports
from then on is compared with a ledger of the run, which knows nothing of the cells: the
configuration of now with the constructor found for its error type, and the configuration in which
the rule was bound to an element type. A reconfiguration empties the cell of the policy but leaves
the specialized check in place. Reports therefore follow the configuration of now, but for
collections of the bound element type, whose reports stay with the configuration in which the rule
was bound.
-/

namespace Contracts

namespace Failure

/-- A failure without the details of its violation. -/
def bare : Failure → Failure
  | .violation v => .violation { v with details := [] }
  | other => other

/-- A failure is a custom error without its details if it is one with them. -/
theorem bare_eq_custom_iff (e : Failure) (c : CustomError) :
    e.bare = .custom c ↔ e = .custom c := by
  cases e <;> simp [bare]

/-- Adding the bounds of an interval to a failure adds details only. -/
theorem bare_withInterval (e : Failure) (min max value : Value) :
    (Rule.withInterval e min max value).bare = e.bare := by
  cases e <;> rfl

end Failure

/-- A policy reports without details. -/
theorem FailurePolicy.bare_report (policy : FailurePolicy) (kind : ViolationKind)
    (parameter text : String) :
    (policy.report kind parameter text).bare = policy.report kind parameter text := by
  cases policy <;> rfl

namespace AnnotationRule

/-- The kind of a rule's violations. -/
def kind : AnnotationRule → ViolationKind
  | .notNull => Rule.notNullKind
  | .notEmpty => Rule.notEmptyKind
  | .interval _ => Rule.intervalKind
  | .pattern _ => Rule.patternKind

/-- The text of a rule's violations, if no other is configured. -/
def ownText (rule : AnnotationRule) (parameter : String) : String :=
  match rule with
  | .notNull => Rule.notNullText parameter
  | .notEmpty => Rule.notEmptyText parameter
  | .interval r => Rule.intervalText parameter r.bounds
  | .pattern _ => Rule.patternText parameter

end AnnotationRule

namespace Rule

variable {parameter : String} {report : Report} {e : Failure}

/-- A missing value is reported with the rule's text. -/
theorem eq_report_of_notNull {value : Option Value}
    (h : notNull value parameter report = .error e) :
    e = report (notNullText parameter) := by
  cases value with
  | none => exact (Except.error.inj h).symm
  | some v => contradiction

/-- An empty value is reported with the rule's text. -/
theorem eq_report_of_notEmpty {count : Option Nat}
    (h : notEmpty count parameter report = .error e) :
    e = report (notEmptyText parameter) := by
  unfold notEmpty at h
  split at h
  · exact (Except.error.inj h).symm
  · contradiction

/-- A text without a match is reported with the rule's text. -/
theorem eq_report_of_pattern {value : Option String} {regex : Regex}
    (h : pattern value (some regex) parameter report = .error e) :
    e = report (patternText parameter) := by
  cases value with
  | none => contradiction
  | some text =>
    simp only [pattern] at h
    split at h
    · contradiction
    · exact (Except.error.inj h).symm

/-- A value outside the interval is reported with the rule's text, and details are added. -/
theorem bare_eq_of_interval {value : Option Value} {bounds : Bounds}
    (h : interval value bounds parameter report = .error e) (hbreach : e.isBreach = true) :
    e.bare = (report (intervalText parameter bounds)).bare := by
  unfold interval at h
  cases hbounds : bounds.require with
  | error c =>
    rw [hbounds] at h
    cases h
    contradiction
  | ok ends =>
    rw [hbounds] at h
    cases value with
    | none => contradiction
    | some v =>
      dsimp only at h
      split at h
      · contradiction
      · cases h
        exact Failure.bare_withInterval _ _ _ _

end Rule

/-- An interval rule that was broken reports its kind and its text to the policy. -/
theorem IntervalRule.evaluate_breach {r : IntervalRule} {policy : FailurePolicy} {value : Value}
    {parameter : String} {e : Failure} (h : r.evaluate policy value parameter = .error e)
    (hbreach : e.isBreach = true) :
    e.bare = policy.report Rule.intervalKind parameter (Rule.intervalText parameter r.bounds) := by
  unfold evaluate at h
  split at h
  · cases h
    contradiction
  · cases h
    contradiction
  · split at h
    · cases h
      contradiction
    · split at h
      · cases h
        contradiction
      · exact (Rule.bare_eq_of_interval h hbreach).trans (policy.bare_report _ _ _)

/-- A pattern rule that was broken reports its kind and its text to the policy. -/
theorem PatternRule.evaluate_breach {r : PatternRule} {policy : FailurePolicy} {value : Value}
    {parameter : String} {e : Failure} (h : r.evaluate policy value parameter = .error e)
    (hbreach : e.isBreach = true) :
    e = policy.report Rule.patternKind parameter (Rule.patternText parameter) := by
  simp only [evaluate, Rule.patternSource] at h
  cases hcompiled : r.options.compile r.pattern with
  | error c =>
    rw [hcompiled] at h
    split at h
    · cases h
      contradiction
    · cases h
      contradiction
  | ok regex =>
    rw [hcompiled] at h
    split at h
    · exact Rule.eq_report_of_pattern h
    · cases h
      contradiction

/-- A rule that was broken reports its kind and its text to the policy. -/
theorem AnnotationRule.evaluate_breach {rule : AnnotationRule} {policy : FailurePolicy}
    {value : Value} {parameter : String} {e : Failure}
    (h : rule.evaluate policy value parameter = .error e) (hbreach : e.isBreach = true) :
    e.bare = policy.report rule.kind parameter (rule.ownText parameter) := by
  cases rule with
  | interval r => exact r.evaluate_breach h hbreach
  | notNull =>
    rw [Rule.eq_report_of_notNull h]
    exact policy.bare_report _ _ _
  | pattern r =>
    rw [r.evaluate_breach h hbreach]
    exact policy.bare_report _ _ _
  | notEmpty =>
    simp only [evaluate] at h
    split at h
    · contradiction
    · split at h
      · rw [Rule.eq_report_of_notEmpty h]
        exact policy.bare_report _ _ _
      · cases h
        contradiction

namespace Annotation

/-- The failure configuration of an annotation at some time, with the constructor that a check has
found for its error type. -/
@[ext]
structure Reporting where
  failure : FailureConfig
  constructor? : Option ErrorConstructor
  /-- Only an error type has a constructor. -/
  named : constructor?.isSome → failure.errorType.isSome

namespace Reporting

/-- A configuration that was just made. -/
def configured (failure : FailureConfig) : Reporting := ⟨failure, none, by simp⟩

/-- The policy of a configuration. -/
def policy (r : Reporting) : FailurePolicy := .resolve r.constructor? r.failure.message

/-- Whether nothing stands in the way of reports: an error type has its constructor. -/
def isResolved (r : Reporting) : Bool := r.failure.errorType.isNone || r.constructor?.isSome

/-- The policy of a configuration, unless the constructor of its error type is missing. -/
def policy? (r : Reporting) : Option FailurePolicy := if r.isResolved then some r.policy else none

/-- Without an error type there is no constructor. -/
theorem constructor?_of_errorType (r : Reporting) (h : r.failure.errorType = none) :
    r.constructor? = none := by
  have hnamed := r.named
  rw [h] at hnamed
  cases hc : r.constructor? with
  | none => rfl
  | some k => simp [hc] at hnamed

/-- A use may find the constructor of the error type, if there was none. -/
def use (r : Reporting) (use : Use) : Reporting where
  failure := r.failure
  constructor? := r.constructor?.or (r.failure.errorType.bind fun type => use.constructor? type)
  named := by
    cases ht : r.failure.errorType with
    | none => simp [r.constructor?_of_errorType ht]
    | some type => simp

/-- A failure is what the rule says of the value under a configuration: a custom error if and only
if an error type is configured, and with the configured message, if there is one. -/
structure Explains (r : Reporting) (rule : AnnotationRule) (value : Value) (parameter : String)
    (e : Failure) : Prop where
  produced : rule.evaluate (.resolve r.constructor? r.failure.message) value parameter = .error e
  custom : (∃ c, e = .custom c) ↔ r.failure.errorType.isSome
  message : ∀ text, r.failure.message = some text →
    match r.constructor? with
    | none => ∃ v, e = .violation v ∧ v.message = text
    | some k => e = .custom (k.construct text)

/-- Once nothing stands in the way of reports, no use changes them. -/
theorem use_of_isResolved {r : Reporting} (h : r.isResolved = true) (use : Use) :
    r.use use = r := by
  ext1
  · rfl
  · cases ht : r.failure.errorType with
    | none => simp [Reporting.use, ht]
    | some type =>
      obtain ⟨k, hk⟩ : ∃ k, r.constructor? = some k := by
        simpa [isResolved, ht, Option.isSome_iff_exists] using h
      simp [Reporting.use, hk]

/-- Without an error type the policy is that of the message. -/
theorem policy?_of_errorType {r : Reporting} (h : r.failure.errorType = none) :
    r.policy? = some (.resolve none r.failure.message) := by
  simp [policy?, isResolved, policy, h, r.constructor?_of_errorType h]

/-- With an error type the policy is that of its constructor. -/
theorem policy?_of_errorType_some {r : Reporting} {type : String}
    (h : r.failure.errorType = some type) :
    r.policy? = r.constructor?.map fun k => .resolve (some k) r.failure.message := by
  unfold policy? isResolved policy
  cases r.constructor? <;> simp [h]

/-- A configuration that was just made has its own policy at most. -/
theorem configured_policy? (failure : FailureConfig) :
    (configured failure).policy? = failure.ownPolicy? := by
  unfold FailureConfig.ownPolicy?
  cases ht : failure.errorType with
  | none => exact policy?_of_errorType ht
  | some type => exact policy?_of_errorType_some ht

/-- A use adds to what is known of the policy what it finds of the constructor. -/
theorem use_policy? (r : Reporting) (use : Use) {policy? : Option FailurePolicy}
    (h : policy?.or r.failure.ownPolicy? = r.policy?) :
    (policy?.or (use.policy? r.failure)).or r.failure.ownPolicy? = (r.use use).policy? := by
  cases ht : r.failure.errorType with
  | none =>
    have hresolved : r.isResolved = true := by simp [isResolved, ht]
    have hown : r.failure.ownPolicy? = use.policy? r.failure := by
      rw [use.policy?_of_errorType ht]
      simp [FailureConfig.ownPolicy?, ht]
    rw [use_of_isResolved hresolved, ← h, Option.or_assoc, hown, Option.or_self]
  | some type =>
    have hown : r.failure.ownPolicy? = none := by simp [FailureConfig.ownPolicy?, ht]
    rw [hown, Option.or_none, policy?_of_errorType_some ht] at h
    rw [hown, Option.or_none, h, use.policy?_of_errorType_some ht,
      policy?_of_errorType_some (r := r.use use) ht, ← Option.map_or]
    simp [Reporting.use, ht]

/-- A breach that the rule reports under a resolved configuration is explained by it. -/
theorem explains_of_evaluate {r : Reporting} (hresolved : r.isResolved = true)
    {rule : AnnotationRule} {value : Value} {parameter : String} {e : Failure}
    (h : rule.evaluate r.policy value parameter = .error e) (hbreach : e.isBreach = true) :
    r.Explains rule value parameter e := by
  have hbare := AnnotationRule.evaluate_breach h hbreach
  have herror : r.failure.errorType.isSome = r.constructor?.isSome := by
    cases ht : r.failure.errorType with
    | none => simp [r.constructor?_of_errorType ht]
    | some type => simpa [isResolved, ht] using hresolved.symm
  refine ⟨h, ?_, ?_⟩
  · have hcustom : (∃ c, e = .custom c) ↔
        ∃ c, r.policy.report rule.kind parameter (rule.ownText parameter) = .custom c := by
      rw [← hbare]
      exact exists_congr fun c => (e.bare_eq_custom_iff c).symm
    rw [hcustom, herror, policy]
    cases r.constructor? with
    | some k => simp [FailurePolicy.resolve, FailurePolicy.report]
    | none =>
      cases r.failure.message <;>
        simp [FailurePolicy.resolve, FailurePolicy.report, Failure.ofParameter]
  · intro text htext
    rw [policy, htext] at hbare
    cases hk : r.constructor? with
    | some k =>
      rw [hk] at hbare
      exact (e.bare_eq_custom_iff _).mp hbare
    | none =>
      rw [hk] at hbare
      cases e with
      | violation v => exact ⟨v, rfl, congrArg Violation.message (Failure.violation.inj hbare)⟩
      | custom c => contradiction
      | configuration c => contradiction

end Reporting

/-- An annotation whose policy and whose specialized check report by a given policy, as a
reconfiguration that forgets no cell would leave it. -/
def refresh (a : Annotation) (policy : FailurePolicy) : Annotation :=
  { a with
    policy? := some policy
    specialization? := a.specialization?.map fun s => ⟨s.element, policy⟩ }

/-- A specialized check refuses the same collections by whatever policy it reports. -/
theorem refused?_refresh (a : Annotation) (policy : FailurePolicy) (value : Value) :
    (a.refresh policy).refused? value = a.refused? value := by
  cases value with
  | collection found items =>
    unfold refused? refresh
    cases a.specialization? <;> rfl
  | _ => rfl

/-- The policy of a specialized check is seen only by collections of its element type. -/
theorem judge_refresh (a : Annotation) {policy : FailurePolicy} (h : a.currentPolicy = .ok policy)
    {value : Value} (hvalue : ∀ s items, a.specialization? = some s →
      value ≠ .collection s.element items) (parameter : String) :
    (a.refresh policy).judge value parameter = a.judge value parameter := by
  have hcurrent : (a.refresh policy).currentPolicy = .ok policy := rfl
  unfold judge
  rw [h, hcurrent]
  cases hrule : a.rule with
  | notNull => simp only [refresh, hrule]
  | interval r => simp only [refresh, hrule]
  | pattern r => simp only [refresh, hrule]; rfl
  | notEmpty =>
    simp only [refresh, hrule]
    cases value with
    | collection found items =>
      simp only [judgeNotEmpty]
      cases hs : a.specialization? with
      | none => rfl
      | some s =>
        have hfound : found ≠ s.element := fun hsame => hvalue s items hs (hsame ▸ rfl)
        simp [SpecializedCheck.check, hfound]
    | _ => rfl

/-- What can be done with an annotation. -/
inductive Act where
  /-- It is used. -/
  | use (use : Use)
  /-- Its message is replaced. -/
  | withMessage (text : String)
  /-- Its error type is replaced. -/
  | withErrorType (type : String)

/-- The annotation after an act. -/
def afterAct (a : Annotation) : Act → Annotation
  | .use use => a.afterUse use
  | .withMessage text => a.withMessage text
  | .withErrorType type => a.withErrorType type

/-- The annotation after a run of acts. -/
def afterActs (a : Annotation) (acts : List Act) : Annotation := acts.foldl afterAct a

/-- The element type to which a rule was bound, under which configuration this happened, and whether
the configuration has changed since. -/
structure Binding where
  element : String
  reporting : Reporting
  outdated : Bool

/-- The configuration of now, and the binding of the rule if it is bound. -/
structure Ledger where
  current : Reporting
  binding? : Option Binding

namespace Ledger

/-- The ledger of an annotation that was just made. -/
def opening (failure : FailureConfig) : Ledger := ⟨.configured failure, none⟩

/-- A use that binds the rule is entered if the rule is not bound yet and its failures can be
reported. -/
def use (rule : AnnotationRule) (l : Ledger) (use : Use) : Ledger :=
  let current := l.current.use use
  let found? := if current.isResolved then use.element? rule else none
  ⟨current, l.binding?.or (found?.map fun element => ⟨element, current, false⟩)⟩

/-- Another configuration outdates the binding. -/
def reconfigure (l : Ledger) (failure : FailureConfig) : Ledger :=
  ⟨.configured failure, l.binding?.map fun b => { b with outdated := true }⟩

/-- Enter an act. -/
def record (rule : AnnotationRule) (l : Ledger) : Act → Ledger
  | .use use => l.use rule use
  | .withMessage text => l.reconfigure { l.current.failure with message := some text }
  | .withErrorType type => l.reconfigure { l.current.failure with errorType := some type }

/-- The ledger of a run. -/
def ofActs (rule : AnnotationRule) (failure : FailureConfig) (acts : List Act) : Ledger :=
  acts.foldl (record rule) (opening failure)

/-- The binding whose check a value is left to. -/
def governing? (l : Ledger) : Value → Option Binding
  | .collection found _ => l.binding?.filter fun b => found = b.element
  | _ => none

/-- The configuration by which a broken rule is reported for a value. -/
def reportingOf (l : Ledger) (value : Value) : Reporting :=
  ((l.governing? value).map (·.reporting)).getD l.current

/-- Whether a value is left to the check of a binding from before the last reconfiguration. -/
def isOutdated (l : Ledger) (value : Value) : Bool := (l.governing? value).any (·.outdated)

/-- A value that is left to the check of a binding is a collection of its element type. -/
theorem of_governing? {l : Ledger} {value : Value} {b : Binding}
    (h : l.governing? value = some b) :
    l.binding? = some b ∧ ∃ items, value = .collection b.element items := by
  cases value with
  | collection found items =>
    obtain ⟨hb, hfound⟩ := Option.filter_eq_some_iff.mp h
    exact ⟨hb, items, by rw [of_decide_eq_true hfound]⟩
  | _ => contradiction

/-- What the cells of an annotation hold is what a ledger says of it. -/
structure Describes (l : Ledger) (rule : AnnotationRule) (a : Annotation) : Prop where
  sameRule : a.rule = rule
  sameFailure : a.failure = l.current.failure
  policy : a.policy?.or a.failure.ownPolicy? = l.current.policy?
  check : a.specialization? = l.binding?.map fun b => ⟨b.element, b.reporting.policy⟩
  bound : ∀ b, l.binding? = some b → rule = .notEmpty ∧ b.reporting.isResolved = true ∧
    (b.outdated = false → b.reporting = l.current)
  regex : ∀ regex, a.regex? = some regex → rule.compiled? = some regex

/-- The ledger of an annotation that was just made describes it. -/
theorem describes_opening (rule : AnnotationRule) (failure : FailureConfig) :
    (opening failure).Describes rule (fresh rule failure) where
  sameRule := rfl
  sameFailure := rfl
  policy := (Reporting.configured_policy? failure).symm
  check := rfl
  bound := by simp [opening]
  regex := by simp [fresh]

namespace Describes

variable {l : Ledger} {rule : AnnotationRule} {a : Annotation}

/-- What is known of the policy after a use is what the ledger says of it then. -/
theorem policy_use (h : l.Describes rule a) (use : Use) :
    (a.policy?.or (use.policy? a.failure)).or a.failure.ownPolicy? =
      (l.current.use use).policy? := by
  have hknown := l.current.use_policy? use (h.sameFailure ▸ h.policy)
  rwa [← h.sameFailure] at hknown

/-- A use that can bind the rule gives all of the policy that there is to be had. -/
theorem policy?_of_element? (h : l.Describes rule a) {use : Use} {element : String}
    (helement : use.element? rule = some element) :
    a.policy?.or (use.policy? a.failure) = (l.current.use use).policy? := by
  have hall : (use.policy? a.failure).or a.failure.ownPolicy? = use.policy? a.failure := by
    cases use with
    | selfCheck site c => exact a.failure.policyIn?_or_ownPolicy? c
    | validate target value parameter => simp [Use.element?] at helement
  rw [← h.policy_use use, Option.or_assoc, hall]

/-- A use leaves what the ledger says after it. -/
theorem use (h : l.Describes rule a) (use : Use) :
    (l.use rule use).Describes rule (a.afterUse use) := by
  rw [afterUse_eq_fill]
  refine ⟨h.sameRule, h.sameFailure, h.policy_use use, ?_, ?_, ?_⟩
  · change a.specialization?.or _ = (l.binding?.or _).map _
    rw [Option.map_or, h.check, h.sameRule]
    congr 1
    cases helement : use.element? rule with
    | none => simp
    | some element =>
      rw [Option.bind_some, h.policy?_of_element? helement, Reporting.policy?]
      cases (l.current.use use).isResolved <;> rfl
  · intro b hb
    rcases Option.or_eq_some_iff.mp hb with hkept | ⟨-, hnew⟩
    · obtain ⟨hrule, hresolved, hcurrent⟩ := h.bound b hkept
      refine ⟨hrule, hresolved, fun hfresh => ?_⟩
      -- a rule is bound under a resolved configuration only, and such a one no use changes
      have hsame := hcurrent hfresh
      rw [hsame] at hresolved ⊢
      exact (Reporting.use_of_isResolved hresolved use).symm
    · obtain ⟨element, helement, rfl⟩ := Option.map_eq_some_iff.mp hnew
      rw [Option.ite_none_right_eq_some] at helement
      exact ⟨use.rule_of_element? helement.2, helement.1, fun _ => rfl⟩
  · intro regex hregex
    rcases Option.or_eq_some_iff.mp hregex with hkept | ⟨-, hnew⟩
    · exact h.regex regex hkept
    · rw [Option.ite_none_right_eq_some, h.sameRule] at hnew
      exact hnew.2

/-- Another configuration empties the cell of the policy and leaves the specialized check, which the
ledger notes as outdated. -/
theorem reconfigure (h : l.Describes rule a) (failure : FailureConfig) :
    (l.reconfigure failure).Describes rule { a with failure, policy? := none } where
  sameRule := h.sameRule
  sameFailure := rfl
  policy := (Reporting.configured_policy? failure).symm
  check := by
    simp only [h.check, Ledger.reconfigure, Option.map_map]
    rfl
  bound b hb := by
    obtain ⟨kept, hkept, rfl⟩ := Option.map_eq_some_iff.mp hb
    obtain ⟨hrule, hresolved, -⟩ := h.bound kept hkept
    exact ⟨hrule, hresolved, by simp⟩
  regex := h.regex

/-- An act leaves what the ledger says after it. -/
theorem record (h : l.Describes rule a) (act : Act) :
    (l.record rule act).Describes rule (a.afterAct act) := by
  cases act with
  | use use => exact h.use use
  | withMessage text =>
    have hfailure := h.sameFailure
    simp only [Ledger.record, afterAct, withMessage, ← hfailure]
    exact h.reconfigure _
  | withErrorType type =>
    have hfailure := h.sameFailure
    simp only [Ledger.record, afterAct, withErrorType, ← hfailure]
    exact h.reconfigure _

/-- A run leaves what the ledger says after it. -/
theorem foldl (h : l.Describes rule a) (acts : List Act) :
    (acts.foldl (Ledger.record rule) l).Describes rule (a.afterActs acts) := by
  induction acts generalizing l a with
  | nil => exact h
  | cons act rest ih => exact ih (h.record act)

/-- The policy at hand is that of the configuration of now. -/
theorem currentPolicy (h : l.Describes rule a) :
    a.currentPolicy =
      match l.current.policy? with
      | some policy => .ok policy
      | none => .error (.unresolvedErrorType (l.current.failure.errorType.getD "")) := by
  have hknown := a.currentPolicy_eq
  rw [h.policy, h.sameFailure] at hknown
  exact hknown

/-- An annotation that follows its ledger in all but the policy of the specialized check is coherent
once that check is given the policy of now. -/
theorem coherent_refresh (h : l.Describes rule a) {policy : FailurePolicy}
    (hpolicy : l.current.policy? = some policy) : (a.refresh policy).Coherent where
  policy hnone := by
    have hcurrent : l.current.failure.errorType = none := h.sameFailure ▸ hnone
    rw [Reporting.policy?_of_errorType hcurrent, ← h.sameFailure] at hpolicy
    intro kept hkept
    exact (Option.some.inj (hpolicy.trans hkept)).symm
  check s hs := by
    obtain ⟨old, hold, rfl⟩ := Option.map_eq_some_iff.mp hs
    rw [h.check] at hold
    obtain ⟨b, hb, -⟩ := Option.map_eq_some_iff.mp hold
    exact ⟨h.sameRule.trans (h.bound b hb).1, rfl⟩
  regex regex hregex := by
    change a.rule.compiled? = some regex
    rw [h.sameRule]
    exact h.regex regex hregex

/-- A value that is left to the check of a binding is counted by it. -/
theorem judge_of_governing? (h : l.Describes rule a) {policy : FailurePolicy}
    (hpolicy : l.current.policy? = some policy) {value : Value} {b : Binding}
    (hb : l.governing? value = some b) (parameter : String) :
    a.judge value parameter = rule.evaluate b.reporting.policy value parameter := by
  obtain ⟨hbinding, items, rfl⟩ := of_governing? hb
  have hrule := (h.bound b hbinding).1
  have hcheck : a.specialization? = some ⟨b.element, b.reporting.policy⟩ := by
    rw [h.check, hbinding]
    rfl
  subst hrule
  simp [judge, h.currentPolicy, hpolicy, h.sameRule, judgeNotEmpty, hcheck, SpecializedCheck.check,
    AnnotationRule.evaluate, Value.isNull, Value.count?]

/-- Any other value is judged under the configuration of now, unless it is refused. -/
theorem judge_of_not_governing? (h : l.Describes rule a) {policy : FailurePolicy}
    (hpolicy : l.current.policy? = some policy) {value : Value}
    (hnone : l.governing? value = none) (parameter : String) :
    a.judge value parameter =
      match a.refused? value with
      | some (bound, found) => .error (.configuration (.elementTypeMismatch bound found))
      | none => rule.evaluate policy value parameter := by
  have hcurrent : a.currentPolicy = .ok policy := by rw [h.currentPolicy, hpolicy]
  have hother : ∀ s items, a.specialization? = some s → value ≠ .collection s.element items := by
    rintro s items hs rfl
    rw [h.check] at hs
    obtain ⟨b, hb, rfl⟩ := Option.map_eq_some_iff.mp hs
    simp [governing?, hb] at hnone
  have hjudged := (h.coherent_refresh hpolicy).judge_eq_evaluate rfl value parameter
  rw [a.judge_refresh hcurrent hother, a.refused?_refresh] at hjudged
  rw [← h.sameRule]
  exact hjudged

/-- An annotation whose error type has no constructor answers with a configuration error; otherwise
a value that is not refused is judged under the configuration by which the ledger has it
reported. -/
theorem judge (h : l.Describes rule a) (value : Value) (parameter : String) :
    a.judge value parameter =
      match l.current.policy? with
      | none =>
        .error (.configuration (.unresolvedErrorType (l.current.failure.errorType.getD "")))
      | some _ =>
        match a.refused? value with
        | some (bound, found) => .error (.configuration (.elementTypeMismatch bound found))
        | none => rule.evaluate (l.reportingOf value).policy value parameter := by
  cases hpolicy : l.current.policy? with
  | none =>
    unfold Annotation.judge
    rw [h.currentPolicy, hpolicy]
  | some policy =>
    cases hb : l.governing? value with
    | some b =>
      have hunrefused : a.refused? value = none := by
        obtain ⟨hbinding, items, rfl⟩ := of_governing? hb
        simp [refused?, h.check, hbinding]
      simp [h.judge_of_governing? hpolicy hb, hunrefused, reportingOf, hb]
    | none =>
      have hsame : policy = l.current.policy := by
        simp only [Reporting.policy?, Option.ite_none_right_eq_some] at hpolicy
        exact (Option.some.inj hpolicy.2).symm
      simp [h.judge_of_not_governing? hpolicy hb, reportingOf, hb, hsame]

/-- The configuration by which a breach is reported is resolved. -/
theorem isResolved_reportingOf (h : l.Describes rule a) (value : Value) {policy : FailurePolicy}
    (hpolicy : l.current.policy? = some policy) : (l.reportingOf value).isResolved = true := by
  unfold reportingOf
  cases hb : l.governing? value with
  | some b => exact (h.bound b (of_governing? hb).1).2.1
  | none =>
    simp only [Reporting.policy?, Option.ite_none_right_eq_some] at hpolicy
    exact hpolicy.1

/-- A value whose check is not outdated is reported by the configuration of now. -/
theorem reportingOf_eq_current (h : l.Describes rule a) {value : Value}
    (hvalue : l.isOutdated value = false) : l.reportingOf value = l.current := by
  unfold reportingOf
  cases hb : l.governing? value with
  | none => rfl
  | some b =>
    have hfresh : b.outdated = false := by simpa [isOutdated, hb] using hvalue
    exact (h.bound b (of_governing? hb).1).2.2 hfresh

end Describes

end Ledger

/-- Reports of breaches. Whatever was done with an annotation, the ledger knows its configuration,
and a breach that it reports of a value is explained by the configuration that the ledger has for
the value. This is the configuration of now, unless the value is a collection of the element type
that the rule was bound to, and a message or an error type was replaced after that. -/
theorem validate_explained (rule : AnnotationRule) (failure : FailureConfig) (acts : List Act)
    (target : Option Value) (value : Value) (parameter : String) {e : Failure}
    (h : (Validator.validate ((fresh rule failure).afterActs acts) target value parameter).1 =
      .error e) (hbreach : e.isBreach = true) :
    let ledger := Ledger.ofActs rule failure acts
    ((fresh rule failure).afterActs acts).failure = ledger.current.failure ∧
      (ledger.reportingOf value).Explains rule value parameter e ∧
      (ledger.isOutdated value = false → ledger.current.Explains rule value parameter e) := by
  intro ledger
  have hdescribes : ledger.Describes rule ((fresh rule failure).afterActs acts) :=
    (Ledger.describes_opening rule failure).foldl acts
  have hreported : (ledger.reportingOf value).Explains rule value parameter e := by
    have hjudged := (hdescribes.judge value parameter).symm.trans h
    cases hpolicy : ledger.current.policy? with
    | none =>
      rw [hpolicy] at hjudged
      cases hjudged
      contradiction
    | some policy =>
      rw [hpolicy] at hjudged
      cases hrefused : ((fresh rule failure).afterActs acts).refused? value with
      | some pair =>
        rw [hrefused] at hjudged
        cases hjudged
        contradiction
      | none =>
        rw [hrefused] at hjudged
        have hresolved := hdescribes.isResolved_reportingOf value hpolicy
        exact Reporting.explains_of_evaluate hresolved hjudged hbreach
  refine ⟨hdescribes.sameFailure, hreported, fun hcurrent => ?_⟩
  rwa [hdescribes.reportingOf_eq_current hcurrent] at hreported

/-- A rule that was bound to orders and then given a message reports an empty list with it. -/
theorem validate_explained_list :
    let site := Site.parameter ⟨"Shop", "place", [⟨0, "orders"⟩]⟩ ⟨0, "orders"⟩ "Orders"
    let acts := [.use (.selfCheck site .shop), .withMessage "no orders"]
    let ledger := Ledger.ofActs .notEmpty {} acts
    (Validator.validate ((fresh .notEmpty {}).afterActs acts) none (.list []) "orders").1 =
        .error (.ofParameter .argument "orders" "no orders") ∧
      ledger.isOutdated (.list []) = false ∧
      ledger.current.Explains .notEmpty (.list []) "orders"
        (.ofParameter .argument "orders" "no orders") := by
  intro site acts ledger
  have hfailed : (Validator.validate ((fresh .notEmpty {}).afterActs acts) none (.list [])
      "orders").1 = .error (.ofParameter .argument "orders" "no orders") := rfl
  have hfresh : ledger.isOutdated (.list []) = false := rfl
  exact ⟨hfailed, hfresh,
    (validate_explained .notEmpty {} acts none (.list []) "orders" hfailed rfl).2.2 hfresh⟩

/-- The same rule reports an empty collection of orders with its own text, although a message is
configured by then. -/
theorem validate_unexplained_orders :
    let site := Site.parameter ⟨"Shop", "place", [⟨0, "orders"⟩]⟩ ⟨0, "orders"⟩ "Orders"
    let acts := [.use (.selfCheck site .shop), .withMessage "no orders"]
    let breach := Failure.ofParameter .argument "orders" "The parameter 'orders' is empty"
    ((fresh .notEmpty {}).afterActs acts).failure.message = some "no orders" ∧
      (Validator.validate ((fresh .notEmpty {}).afterActs acts) none (.collection "Order" [])
        "orders").1 = .error breach ∧
      breach.isBreach = true ∧
      ¬ (Ledger.ofActs .notEmpty {} acts).current.Explains .notEmpty
          (.collection "Order" []) "orders"
        breach := by
  intro site acts breach
  refine ⟨rfl, rfl, rfl, fun hexplained => ?_⟩
  obtain ⟨v, hv, htext⟩ := hexplained.message "no orders" rfl
  have hown : "The parameter 'orders' is empty" = v.message :=
    congrArg Violation.message (Failure.violation.inj hv)
  exact absurd (hown.trans htext) (by decide)

end Annotation

end Contracts
