import Contracts.Weaving.Validator

/-!
# Histories of an annotation

An annotation is used in two ways, any number of times and in any order: it is checked at a site
of some model, and it judges a value. Both uses keep the rule and the failure configuration, and
both do no more than fill cells that were empty. The content of each cell after a history
therefore follows from the first use that could fill it.
-/

namespace Contracts

/-- A null value is absent. -/
theorem Value.present_of_isNull {value : Value} (h : value.isNull = true) :
    value.present = none := by
  cases value with
  | null => rfl
  | _ => contradiction

/-- A value that is not null is present. -/
theorem Value.present_of_isNull_eq_false {value : Value} (h : value.isNull = false) :
    value.present = some value := by
  cases value with
  | null => contradiction
  | _ => rfl

/-- The constructor of an error type, provided that the type is declared as one. -/
def Catalogue.usableConstructor? (c : Catalogue) (type : String) : Option ErrorConstructor :=
  if c.isErrorType type then c.errorConstructor? type else none

/-- The element type to which a type binds a not-empty rule; text and countable types bind none. -/
def Catalogue.boundElement? (c : Catalogue) (type : String) : Option String :=
  if c.hasCapability type .text || c.hasCapability type .countable then none
  else c.elementTypeOf type

/-- A type that is not declared binds no rule to an element type. -/
theorem Catalogue.boundElement?_of_decl? {c : Catalogue} {type : String}
    (h : c.decl? type = none) : c.boundElement? type = none := by
  simp [boundElement?, elementTypeOf, underlying, h]

/-- Whether the type of a site is declared. -/
def Site.isKnown (site : Site) (c : Catalogue) : Bool :=
  site.declaredType?.any fun type => (c.decl? type).isSome

namespace FailureConfig

/-- The policy of a configuration that names no error type. -/
def ownPolicy? (f : FailureConfig) : Option FailurePolicy :=
  match f.errorType with
  | none => some (.resolve none f.message)
  | some _ => none

/-- The policy of a configuration as far as a catalogue can resolve its error type. -/
def policyIn? (f : FailureConfig) (c : Catalogue) : Option FailurePolicy :=
  match f.errorType with
  | none => some (.resolve none f.message)
  | some type => (c.usableConstructor? type).map fun k => .resolve (some k) f.message

/-- A catalogue knows a configuration's own policy. -/
theorem policyIn?_or_ownPolicy? (f : FailureConfig) (c : Catalogue) :
    (f.policyIn? c).or f.ownPolicy? = f.policyIn? c := by
  unfold policyIn? ownPolicy?
  cases f.errorType <;> simp

end FailureConfig

namespace AnnotationRule

/-- The element type to which the type of a site binds a rule. -/
def element? (rule : AnnotationRule) (c : Catalogue) (site : Site) : Option String :=
  match rule with
  | .notEmpty => site.declaredType?.bind c.boundElement?
  | _ => none

/-- The compiled pattern of a rule that has one. -/
def compiled? (rule : AnnotationRule) : Option Regex :=
  match rule with
  | .pattern r => r.compile.toOption
  | _ => none

end AnnotationRule

namespace Annotation

/-- The annotation of a rule before anything was worked out. -/
def fresh (rule : AnnotationRule) (failure : FailureConfig) : Annotation := { rule, failure }

/-- Fill the empty cells of an annotation. -/
def fill (a : Annotation) (policy? : Option FailurePolicy) (check? : Option SpecializedCheck)
    (regex? : Option Regex) : Annotation :=
  { a with
    policy? := a.policy?.or policy?
    specialization? := a.specialization?.or check?
    regex? := a.regex?.or regex? }

/-- The policy known now is the kept one, or else the configuration's own. -/
theorem currentPolicy_eq (a : Annotation) :
    a.currentPolicy =
      match a.policy?.or a.failure.ownPolicy? with
      | some policy => .ok policy
      | none => .error (.unresolvedErrorType (a.failure.errorType.getD "")) := by
  unfold currentPolicy FailureConfig.ownPolicy?
  cases a.policy? with
  | some policy => rfl
  | none => cases a.failure.errorType <;> rfl

/-- Forgetting why no policy is known. -/
theorem currentPolicy_toOption (a : Annotation) :
    a.currentPolicy.toOption = a.policy?.or a.failure.ownPolicy? := by
  rw [currentPolicy_eq]
  cases a.policy?.or a.failure.ownPolicy? <;> rfl

/-- The pattern known now is the kept one, or else the compiled one. -/
theorem currentRegex_toOption (a : Annotation) (r : PatternRule) :
    (a.currentRegex r).toOption = a.regex?.or r.compile.toOption := by
  unfold currentRegex
  cases a.regex? <;> rfl

/-- Settling the policy fills its cell. -/
theorem settlePolicy_eq_fill (a : Annotation) :
    a.settlePolicy = a.fill a.failure.ownPolicy? none none := by
  simp [settlePolicy, fill, currentPolicy_toOption]

/-- Settling the pattern fills its cell. -/
theorem settleRegex_eq_fill (a : Annotation) :
    a.settleRegex = a.fill none none a.rule.compiled? := by
  obtain ⟨rule, failure, policy?, check?, regex?⟩ := a
  cases rule with
  | pattern r => simp [settleRegex, fill, AnnotationRule.compiled?, currentRegex_toOption]
  | _ => simp [settleRegex, fill, AnnotationRule.compiled?]

/-- Judging fills the policy, and with a policy at hand the pattern. -/
theorem settle_eq_fill (a : Annotation) :
    a.settle =
      a.fill a.failure.ownPolicy? none
        (if (a.policy?.or a.failure.ownPolicy?).isSome then a.rule.compiled? else none) := by
  obtain ⟨rule, failure, policy?, check?, regex?⟩ := a
  simp only [settle, currentPolicy_eq]
  cases h : policy?.or failure.ownPolicy? with
  | some policy => simp [settlePolicy_eq_fill, settleRegex_eq_fill, fill]
  | none => simp [fill, (Option.or_eq_none_iff.mp h).1, (Option.or_eq_none_iff.mp h).2]

/-- Resolving the policy fills its cell from the catalogue. -/
theorem resolvePolicy_snd (a : Annotation) (c : Catalogue) :
    (a.resolvePolicy c).2 = a.fill (a.failure.policyIn? c) none none := by
  obtain ⟨rule, ⟨errorType, message⟩, policy?, check?, regex?⟩ := a
  cases errorType with
  | none => exact settlePolicy_eq_fill _
  | some type =>
    cases policy? with
    | some policy => simp [resolvePolicy, fill]
    | none =>
      simp only [resolvePolicy, fill, FailureConfig.policyIn?, Catalogue.usableConstructor?]
      cases c.isErrorType type with
      | false => simp
      | true => cases c.errorConstructor? type <;> simp

/-- Binding to an element type fills the cell of the specialized check if a policy is at hand. -/
theorem specialize_snd (a : Annotation) (element : String) :
    (a.specialize element).2 =
      a.fill a.failure.ownPolicy?
        ((a.policy?.or a.failure.ownPolicy?).map (SpecializedCheck.mk element)) none := by
  obtain ⟨rule, failure, policy?, check?, regex?⟩ := a
  simp only [specialize, currentPolicy_eq, settlePolicy_eq_fill]
  cases h : policy?.or failure.ownPolicy? with
  | none => simp [fill, (Option.or_eq_none_iff.mp h).1, (Option.or_eq_none_iff.mp h).2]
  | some policy =>
    cases check? with
    | none => simp [fill, h]
    | some s => by_cases hs : s.element = element <;> simp [fill, h, hs]

/-- Preparing a pattern fills the cell of the compiled pattern. -/
theorem preparePattern_snd (a : Annotation) (r : PatternRule) :
    (a.preparePattern r).2 = a.fill none none r.compile.toOption := by
  obtain ⟨rule, failure, policy?, check?, regex?⟩ := a
  cases regex? with
  | some regex => simp [preparePattern, fill]
  | none =>
    simp only [preparePattern, fill]
    cases r.compile with
    | ok regex => simp [Except.toOption]
    | error e => cases e <;> simp [Except.toOption]

/-- Checking the rule against a type fills cells only for typed collections and for patterns. -/
theorem checkType_snd (a : Annotation) (site : Site) (type : String) (c : Catalogue) :
    (a.checkType site type c).2 =
      match a.rule with
      | .notEmpty => ((c.boundElement? type).map fun e => (a.specialize e).2).getD a
      | .pattern r => a.fill none none r.compile.toOption
      | _ => a := by
  unfold checkType
  cases hr : a.rule with
  | notNull => rfl
  | interval r => rfl
  | pattern r => exact preparePattern_snd a r
  | notEmpty =>
    simp only [Catalogue.boundElement?]
    cases c.hasCapability type .text || c.hasCapability type .countable with
    | true => rfl
    | false => cases c.elementTypeOf type <;> rfl

/-- A self-check resolves the policy first, and then looks at the type of the site if that is
declared. -/
theorem selfCheck_snd_eq_checkType_snd (a : Annotation) (site : Site) (c : Catalogue) :
    (a.selfCheck site c).2 =
      match site.declaredType? with
      | none => (a.resolvePolicy c).2
      | some type =>
        if (c.decl? type).isSome then ((a.resolvePolicy c).2.checkType site type c).2
        else (a.resolvePolicy c).2 := by
  unfold selfCheck
  cases site.declaredType? with
  | none => rfl
  | some type => cases hd : c.decl? type <;> simp [hd]

/-- A self-check fills the policy from the catalogue, the specialized check where the type of the
site binds the rule, and the compiled pattern where the type of the site is declared. -/
theorem selfCheck_snd (a : Annotation) (site : Site) (c : Catalogue) :
    (a.selfCheck site c).2 =
      a.fill (a.failure.policyIn? c)
        ((a.rule.element? c site).bind fun element =>
          (a.policy?.or (a.failure.policyIn? c)).map (SpecializedCheck.mk element))
        (if site.isKnown c then a.rule.compiled? else none) := by
  rw [selfCheck_snd_eq_checkType_snd, resolvePolicy_snd]
  obtain ⟨rule, failure, policy?, check?, regex?⟩ := a
  cases ht : site.declaredType? with
  | none => cases rule <;> simp [fill, Site.isKnown, AnnotationRule.element?, ht]
  | some type =>
    cases hd : c.decl? type with
    | none =>
      cases rule <;>
        simp [fill, Site.isKnown, AnnotationRule.element?, ht, hd,
          Catalogue.boundElement?_of_decl? hd]
    | some d =>
      simp only [checkType_snd]
      cases rule with
      | notNull => simp [fill, AnnotationRule.element?, AnnotationRule.compiled?]
      | interval r => simp [fill, AnnotationRule.element?, AnnotationRule.compiled?]
      | pattern r =>
        simp [fill, Site.isKnown, AnnotationRule.element?, AnnotationRule.compiled?, ht, hd]
      | notEmpty =>
        simp only [AnnotationRule.element?, AnnotationRule.compiled?, ht, Option.bind_some, fill]
        cases c.boundElement? type with
        | none => simp
        | some element =>
          simp [specialize_snd, fill, hd, Option.or_assoc, FailureConfig.policyIn?_or_ownPolicy?]

/-- Something that is done with an annotation. -/
inductive Use where
  /-- It is checked at a site of a model. -/
  | selfCheck (site : Site) (c : Catalogue)
  /-- It judges a value of a named parameter, on a target if there is one. -/
  | validate (target : Option Value) (value : Value) (parameter : String)

namespace Use

/-- The policy that a use gives to an annotation without one. -/
def policy? (f : FailureConfig) : Use → Option FailurePolicy
  | .selfCheck _ c => f.policyIn? c
  | .validate _ _ _ => f.ownPolicy?

/-- The element type to which a use binds a rule. -/
def element? (rule : AnnotationRule) : Use → Option String
  | .selfCheck site c => rule.element? c site
  | .validate _ _ _ => none

/-- Whether a use with a policy at hand asks for the compiled pattern. -/
def wantsRegex (policy? : Option FailurePolicy) : Use → Bool
  | .selfCheck site c => site.isKnown c
  | .validate _ _ _ => policy?.isSome

end Use

/-- Without an error type every use gives the policy of the message. -/
theorem Use.policy?_of_errorType (use : Use) {f : FailureConfig} (h : f.errorType = none) :
    use.policy? f = some (.resolve none f.message) := by
  cases use <;> simp [Use.policy?, FailureConfig.policyIn?, FailureConfig.ownPolicy?, h]

/-- Only not-empty rules are bound to element types. -/
theorem Use.rule_of_element? (use : Use) {rule : AnnotationRule} {element : String}
    (h : use.element? rule = some element) : rule = .notEmpty := by
  cases use <;> cases rule <;> simp_all [Use.element?, AnnotationRule.element?]

/-- The annotation after a use. -/
def afterUse (a : Annotation) : Use → Annotation
  | .selfCheck site c => (Validator.selfCheck a site c).2
  | .validate target value parameter => (Validator.validate a target value parameter).2

/-- The annotation after a history. -/
def after (a : Annotation) (history : List Use) : Annotation := history.foldl afterUse a

@[simp] theorem after_nil (a : Annotation) : a.after [] = a := rfl

@[simp] theorem after_cons (a : Annotation) (use : Use) (history : List Use) :
    a.after (use :: history) = (a.afterUse use).after history := rfl

@[simp] theorem after_append (a : Annotation) (before later : List Use) :
    a.after (before ++ later) = (a.after before).after later := List.foldl_append

/-- What a use does: it fills the cells that the use has something for. -/
theorem afterUse_eq_fill (a : Annotation) (use : Use) :
    a.afterUse use =
      let policy? := a.policy?.or (use.policy? a.failure)
      a.fill (use.policy? a.failure)
        ((use.element? a.rule).bind fun element => policy?.map (SpecializedCheck.mk element))
        (if use.wantsRegex policy? then a.rule.compiled? else none) := by
  cases use with
  | selfCheck site c => exact selfCheck_snd a site c
  | validate target value parameter => exact settle_eq_fill a

/-- The rule and the failure configuration stay, and what a cell holds it goes on to hold. -/
structure Extends (a b : Annotation) : Prop where
  rule : b.rule = a.rule
  failure : b.failure = a.failure
  policy : ∀ policy, a.policy? = some policy → b.policy? = some policy
  check : ∀ check, a.specialization? = some check → b.specialization? = some check
  regex : ∀ regex, a.regex? = some regex → b.regex? = some regex

/-- An annotation extends itself. -/
theorem Extends.refl (a : Annotation) : a.Extends a :=
  ⟨rfl, rfl, fun _ h => h, fun _ h => h, fun _ h => h⟩

/-- Extensions compose. -/
theorem Extends.trans {a b c : Annotation} (hab : a.Extends b) (hbc : b.Extends c) :
    a.Extends c where
  rule := hbc.rule.trans hab.rule
  failure := hbc.failure.trans hab.failure
  policy policy h := hbc.policy policy (hab.policy policy h)
  check check h := hbc.check check (hab.check check h)
  regex regex h := hbc.regex regex (hab.regex regex h)

/-- Filling empty cells extends an annotation. -/
theorem extends_fill (a : Annotation) (policy? : Option FailurePolicy)
    (check? : Option SpecializedCheck) (regex? : Option Regex) :
    a.Extends (a.fill policy? check? regex?) := by
  refine ⟨rfl, rfl, ?_, ?_, ?_⟩
  all_goals
    intro x h
    simp [fill, h]

/-- Every history extends an annotation: no cell is ever emptied or filled anew. -/
theorem extends_after (a : Annotation) (history : List Use) : a.Extends (a.after history) := by
  induction history generalizing a with
  | nil => exact Extends.refl a
  | cons use rest ih =>
    have hstep : a.Extends (a.afterUse use) := by
      rw [afterUse_eq_fill]
      exact extends_fill a _ _ _
    exact hstep.trans (ih (a.afterUse use))

@[simp] theorem after_rule (a : Annotation) (history : List Use) :
    (a.after history).rule = a.rule := (extends_after a history).rule

@[simp] theorem after_failure (a : Annotation) (history : List Use) :
    (a.after history).failure = a.failure := (extends_after a history).failure

/-- The policy after a history is the kept one, or else the first that a use gave. -/
theorem after_policy? (a : Annotation) (history : List Use) :
    (a.after history).policy? = a.policy?.or (history.findSome? (Use.policy? a.failure)) := by
  induction history generalizing a with
  | nil => simp
  | cons use rest ih =>
    have hstep : (a.afterUse use).policy? = a.policy?.or (use.policy? a.failure) := by
      rw [afterUse_eq_fill]
      rfl
    have hkeep : (a.afterUse use).failure = a.failure := (extends_after a [use]).failure
    rw [after_cons, ih, hstep, hkeep, List.findSome?_cons, Option.or_assoc]
    cases use.policy? a.failure <;> rfl

/-- What the cells of an annotation hold agrees with its rule, with its failure configuration and
with each other: a specialized check reports by the policy of the annotation, and a compiled
pattern is the rule's own. -/
structure Coherent (a : Annotation) : Prop where
  policy : a.failure.errorType = none → ∀ policy, a.policy? = some policy →
    policy = .resolve none a.failure.message
  check : ∀ check, a.specialization? = some check →
    a.rule = .notEmpty ∧ a.policy? = some check.policy
  regex : ∀ regex, a.regex? = some regex → a.rule.compiled? = some regex

/-- An annotation in which nothing was worked out is coherent. -/
theorem coherent_fresh (rule : AnnotationRule) (failure : FailureConfig) :
    (fresh rule failure).Coherent :=
  ⟨by simp [fresh], by simp [fresh], by simp [fresh]⟩

/-- A use keeps an annotation coherent. -/
theorem Coherent.afterUse {a : Annotation} (h : a.Coherent) (use : Use) :
    (a.afterUse use).Coherent := by
  rw [afterUse_eq_fill]
  refine ⟨?_, ?_, ?_⟩
  · intro hnone policy hpolicy
    rcases Option.or_eq_some_iff.mp hpolicy with hkept | ⟨-, hnew⟩
    · exact h.policy hnone policy hkept
    · have hgiven := use.policy?_of_errorType (f := a.failure) hnone
      exact Option.some.inj (hnew.symm.trans hgiven)
  · intro check hcheck
    rcases Option.or_eq_some_iff.mp hcheck with hkept | ⟨-, hnew⟩
    · obtain ⟨hrule, hpolicy⟩ := h.check check hkept
      exact ⟨hrule, by simp [fill, hpolicy]⟩
    · obtain ⟨element, helement, hmap⟩ := Option.bind_eq_some_iff.mp hnew
      obtain ⟨policy, hpolicy, rfl⟩ := Option.map_eq_some_iff.mp hmap
      exact ⟨use.rule_of_element? helement, hpolicy⟩
  · intro regex hregex
    rcases Option.or_eq_some_iff.mp hregex with hkept | ⟨-, hnew⟩
    · exact h.regex regex hkept
    · split at hnew
      · exact hnew
      · contradiction

/-- Every history keeps an annotation coherent. -/
theorem Coherent.after {a : Annotation} (h : a.Coherent) (history : List Use) :
    (a.after history).Coherent := by
  induction history generalizing a with
  | nil => exact h
  | cons use rest ih => exact ih (h.afterUse use)

end Annotation

/-- A catalogue of two types of collections. -/
def Catalogue.shop : Catalogue :=
  Catalogue.declare (Catalogue.declare ⟨.empty, []⟩ ⟨"Orders", .reference, [.collectionOf "Order"]⟩)
    ⟨"Invoices", .reference, [.collectionOf "Invoice"]⟩

end Contracts
