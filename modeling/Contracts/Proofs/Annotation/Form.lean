import Contracts.Proofs.Annotation.Transparency
import Contracts.Proofs.Rule.Forms

/-!
# Policies and judgements

A policy has no say in whether a value is accepted. Whatever two annotations with one rule were used
for, if one of them reports by the standard policy and they are bound to the same element type, then
the other judges every value as this one does, with its own policy giving the form to violations:
the text of a message in place of the rule's own, or a custom error built from either.
-/

namespace Contracts

/-- A rule evaluated under a policy gives what it gives under the standard one, reformed. -/
theorem AnnotationRule.evaluate_eq_reform (rule : AnnotationRule) (policy : FailurePolicy)
    (value : Value) (parameter : String) :
    rule.evaluate policy value parameter =
      policy.reform (rule.evaluate .standard value parameter) := by
  cases rule with
  | notNull => exact (Rule.Primitive.notNull value.present).check_report parameter policy
  | notEmpty =>
    simp only [evaluate]
    split
    · rfl
    · cases value.count? with
      | none => rfl
      | some count => exact (Rule.Primitive.notEmpty (some count)).check_report parameter policy
  | interval r =>
    simp only [evaluate, IntervalRule.evaluate]
    cases r.min.present with
    | none => rfl
    | some min =>
      cases r.max.present with
      | none => rfl
      | some max =>
        dsimp only
        split
        · rfl
        · split
          · rfl
          · exact (Rule.Primitive.interval value.present r.bounds).check_report parameter policy
  | pattern r =>
    simp only [evaluate, PatternRule.evaluate]
    split
    · exact (Rule.Primitive.patternSource value.text? (some r.pattern) r.options).check_report
        parameter policy
    · cases r.options.compile r.pattern <;> rfl

namespace Annotation

/-- The element type that an annotation is bound to. -/
def element? (a : Annotation) : Option String := a.specialization?.map (·.element)

/-- Which collections are refused depends on the bound element type only. -/
theorem refused?_congr {a b : Annotation} (h : a.element? = b.element?) (value : Value) :
    a.refused? value = b.refused? value := by
  have hbound (c : Annotation) (found : String) (items : List Value) :
      c.refused? (.collection found items) =
        c.element?.bind fun element =>
          if found = element then none else some (element, found) := by
    simp only [refused?, element?]
    cases c.specialization? <;> rfl
  cases value with
  | collection found items => rw [hbound, hbound, h]
  | _ => rfl

/-- What an annotation is bound to after a history it was bound to before, or a use binds its rule
to it. -/
theorem exists_use_of_specialization? (a : Annotation) (history : List Use) {s : SpecializedCheck}
    (h : (a.after history).specialization? = some s) :
    a.specialization? = some s ∨ ∃ use ∈ history, use.element? a.rule = some s.element := by
  induction history generalizing a with
  | nil => exact .inl h
  | cons use rest ih =>
    rcases ih (a.afterUse use) h with hkept | ⟨later, hlater, helement⟩
    · rw [afterUse_eq_fill] at hkept
      rcases Option.or_eq_some_iff.mp hkept with hkept | ⟨-, hnew⟩
      · exact .inl hkept
      · obtain ⟨element, helement, hmap⟩ := Option.bind_eq_some_iff.mp hnew
        obtain ⟨policy, -, rfl⟩ := Option.map_eq_some_iff.mp hmap
        exact .inr ⟨use, List.mem_cons_self, helement⟩
    · have hrule : (a.afterUse use).rule = a.rule := after_rule a [use]
      exact .inr ⟨later, List.mem_cons_of_mem _ hlater, hrule ▸ helement⟩

/-- Without a failure configuration an annotation reports by the standard policy. -/
theorem currentPolicy_plain (rule : AnnotationRule) (plain : List Use) :
    ((fresh rule {}).after plain).currentPolicy = .ok .standard := by
  rw [currentPolicy_after_fresh]
  rfl

/-- Whatever an annotation is bound to, one without a failure configuration can be bound to. -/
theorem exists_plain_element? (rule : AnnotationRule) (failure : FailureConfig)
    (history : List Use) :
    ∃ plain, ((fresh rule {}).after plain).element? =
      ((fresh rule failure).after history).element? := by
  unfold element?
  cases hs : ((fresh rule failure).after history).specialization? with
  | none => exact ⟨[], rfl⟩
  | some s =>
    rcases exists_use_of_specialization? _ history hs with hfresh | ⟨use, -, helement⟩
    · contradiction
    · have hrule : use.element? rule = some s.element := helement
      -- the whole history may bind a plain annotation earlier, as that one never lacks a policy
      refine ⟨[use], ?_⟩
      simp [afterUse_eq_fill, fill, fresh, hrule, use.policy?_of_errorType]

/-- Of two annotations with one rule that are bound to the same element type, each after a history
of its own, one that has a policy judges as one with the standard policy does, reformed. -/
theorem judge_eq_reform {rule : AnnotationRule} {failure plainFailure : FailureConfig}
    {history plain : List Use} {policy : FailurePolicy}
    (hpolicy : ((fresh rule failure).after history).currentPolicy = .ok policy)
    (hplain : ((fresh rule plainFailure).after plain).currentPolicy = .ok .standard)
    (hbound : ((fresh rule plainFailure).after plain).element? =
      ((fresh rule failure).after history).element?)
    (value : Value) (parameter : String) :
    ((fresh rule failure).after history).judge value parameter =
      policy.reform (((fresh rule plainFailure).after plain).judge value parameter) := by
  rw [((coherent_fresh rule failure).after history).judge_eq_evaluate hpolicy,
    ((coherent_fresh rule plainFailure).after plain).judge_eq_evaluate hplain,
    refused?_congr hbound, after_rule, after_rule]
  cases ((fresh rule failure).after history).refused? value with
  | some types => rfl
  | none => exact rule.evaluate_eq_reform policy value parameter

/-- Policies change the form of violations only. An annotation that has a policy, after any history,
judges every value as an annotation of the same rule does that reports by the standard policy and is
bound to the same element type, after any history of its own, with its policy giving violations
their form; and such an annotation there is. A rule on its own has its failure made by the standard
policy in its default form, and by that of a message when it is given one. It has one failure made,
of its own text, if its value breaks it, and none otherwise. -/
theorem validate_eq_reform :
    (∀ rule failure history policy,
      ((fresh rule failure).after history).currentPolicy = .ok policy →
      (∃ plain, ((fresh rule {}).after plain).currentPolicy = .ok .standard ∧
        ((fresh rule {}).after plain).element? = ((fresh rule failure).after history).element?) ∧
      ∀ plainFailure plain, ((fresh rule plainFailure).after plain).currentPolicy = .ok .standard →
        ((fresh rule plainFailure).after plain).element? =
          ((fresh rule failure).after history).element? →
        ∀ target plainTarget value parameter,
          (Validator.validate ((fresh rule failure).after history) target value parameter).1 =
            policy.reform
              (Validator.validate ((fresh rule plainFailure).after plain) plainTarget value
                parameter).1) ∧
    ∀ (p : Rule.Primitive) parameter,
      p.checkDefault parameter =
        p.check parameter (FailurePolicy.standard.report p.kind parameter) ∧
      (∀ message, p.checkWithMessage parameter message =
        p.check parameter ((FailurePolicy.message message).report p.kind parameter)) ∧
      (∀ policy : FailurePolicy, p.check parameter (policy.report p.kind parameter) =
        policy.reform (p.checkDefault parameter)) ∧
      (p.isBroken = true ↔ ∃ v, p.checkDefault parameter = .error (.violation v)) ∧
      ∀ report, p.checkRecording parameter report =
        (p.check parameter report, if p.isBroken then [p.ownText parameter] else []) := by
  constructor
  · intro rule failure history policy hpolicy
    obtain ⟨plain, hplain⟩ := exists_plain_element? rule failure history
    refine ⟨⟨plain, currentPolicy_plain rule plain, hplain⟩, ?_⟩
    intro plainFailure plain hstandard hbound _ _ value parameter
    exact judge_eq_reform hpolicy hstandard hbound value parameter
  · intro p parameter
    exact ⟨rfl, fun _ => rfl, p.check_report parameter, p.isBroken_iff parameter,
      p.checkRecording_eq parameter⟩

/-- Of two not-empty rules that are bound to orders, the one with a message refuses an empty
collection of them with its message, where the other gives the text of the rule. -/
theorem validate_eq_reform_orders :
    let site := Site.parameter ⟨"Shop", "place", [⟨0, "orders"⟩]⟩ ⟨0, "orders"⟩ "Orders"
    let a := (fresh .notEmpty ⟨none, some "Nothing to place."⟩).after [.selfCheck site .shop]
    let b := (fresh .notEmpty {}).after [.validate none .null "orders", .selfCheck site .shop]
    a.currentPolicy = .ok (.message "Nothing to place.") ∧ b.currentPolicy = .ok .standard ∧
      b.element? = a.element? ∧
      (Validator.validate b none (.collection "Order" []) "orders").1 =
        .error (.violation ⟨.argument, Rule.notEmptyText "orders", some "orders", []⟩) ∧
      (Validator.validate a none (.collection "Order" []) "orders").1 =
        .error (.violation ⟨.argument, "Nothing to place.", some "orders", []⟩) := by
  intro site a b
  have hpolicy : a.currentPolicy = .ok (.message "Nothing to place.") := rfl
  have hstandard : b.currentPolicy = .ok .standard := rfl
  have hbound : b.element? = a.element? := rfl
  have hplain : (Validator.validate b none (.collection "Order" []) "orders").1 =
      .error (.violation ⟨.argument, Rule.notEmptyText "orders", some "orders", []⟩) := rfl
  have hreform := (validate_eq_reform.1 .notEmpty ⟨none, some "Nothing to place."⟩ _ _ hpolicy).2
    {} _ hstandard hbound none none (.collection "Order" []) "orders"
  refine ⟨hpolicy, hstandard, hbound, hplain, ?_⟩
  rw [hreform, hplain]
  rfl

end Annotation

end Contracts
