import Contracts.Proofs.Annotation.Problems
import Contracts.Proofs.Annotation.Reconfiguration
import Contracts.Proofs.Declaration.Building

/-!
# Custom error types

An annotation names an error type, and a self-check looks for a way to build errors of this type. It
complains if the type is not declared as an error type, or if nothing can build it; otherwise the
annotation keeps the constructor, and whatever happens to the catalogue afterwards, every breach is
reported as an error of this type. Until then no value is judged.
-/

namespace Contracts

namespace Catalogue

variable {additions : List Addition} {type : String}

/-- The last declaration of a type makes it an error type. -/
def DeclaresError (additions : List Addition) (type : String) : Prop :=
  ∃ d, lastDecl? additions type = some d ∧
    (.error ∈ d.implemented ∨ d.shape = .capability .error)

/-- Errors of a type can be built: a constructor was registered, or the last declaration of the type
says that they are built from a message. -/
def Constructs (additions : List Addition) (type : String) : Prop :=
  (lastConstructor? additions type).isSome ∨
    ∃ d, lastDecl? additions type = some d ∧
      (.messageConstructor ∈ d.implemented ∨ d.shape = .capability .messageConstructor)

/-- The constructor of an error type: the one registered last, or else the generic one. -/
def constructorOf (additions : List Addition) (type : String) : ErrorConstructor :=
  (lastConstructor? additions type).getD (.host type)

/-- The errors of a type are of this type. -/
theorem typeName_constructorOf (additions : List Addition) (type : String) :
    (constructorOf additions type).typeName = type := by
  unfold constructorOf
  cases hlast : lastConstructor? additions type with
  | none => rfl
  | some k => exact typeName_of_lastConstructor? hlast

/-- A built catalogue knows the error types. -/
theorem isErrorType_build_iff :
    (build additions).isErrorType type = true ↔ DeclaresError additions type := by
  simp only [isErrorType, decl?_build, Option.any_eq_true, TypeDecl.has_iff, DeclaresError]

/-- A built catalogue constructs error types of which it knows how. -/
theorem errorConstructor?_of_constructs (herror : DeclaresError additions type)
    (hconstructs : Constructs additions type) :
    (build additions).errorConstructor? type = some (constructorOf additions type) := by
  rw [errorConstructor?_eq, registered?_build, constructorOf]
  cases hlast : lastConstructor? additions type with
  | some k => rfl
  | none =>
    obtain ⟨d, hdecl, hshown⟩ := herror
    rcases hconstructs with hregistered | ⟨e, hdecl', hbuilt⟩
    · simp [hlast] at hregistered
    · obtain rfl : d = e := Option.some.inj (hdecl.symm.trans hdecl')
      simp [decl?_build, hdecl, (d.has_iff _).mpr hshown, (d.has_iff _).mpr hbuilt]

/-- A built catalogue constructs no other types. -/
theorem errorConstructor?_of_not_constructs (hconstructs : ¬ Constructs additions type) :
    (build additions).errorConstructor? type = none := by
  obtain ⟨hregistered, hbuilt⟩ := not_or.mp hconstructs
  rw [errorConstructor?_eq, registered?_build, Option.not_isSome_iff_eq_none.mp hregistered,
    Option.none_or, ite_eq_right_iff]
  intro hany
  obtain ⟨d, hdecl, hhas⟩ := Option.any_eq_true _ _ |>.mp hany
  rw [Bool.and_eq_true, d.has_iff, d.has_iff] at hhas
  exact absurd ⟨d, decl?_build additions type ▸ hdecl, hhas.2⟩ hbuilt

end Catalogue

namespace FailureConfig

variable (additions : List Catalogue.Addition) (type : String) (message : Option String)

/-- The problem with an error type in a built catalogue. -/
theorem problem?_build_iff (p : Problem) :
    problem? ⟨some type, message⟩ (.build additions) = some p ↔
      (¬ Catalogue.DeclaresError additions type ∧ p = .invalidErrorType) ∨
        (Catalogue.DeclaresError additions type ∧ ¬ Catalogue.Constructs additions type ∧
          p = .errorTypeNotConstructible) := by
  have hdeclared := @Catalogue.isErrorType_build_iff additions type
  rw [problem?, Option.bind_some]
  by_cases herror : Catalogue.DeclaresError additions type
  · rw [hdeclared.mpr herror]
    by_cases hconstructs : Catalogue.Constructs additions type
    · simp [Catalogue.errorConstructor?_of_constructs herror hconstructs, herror, hconstructs]
    · simp [Catalogue.errorConstructor?_of_not_constructs hconstructs, herror, hconstructs, eq_comm]
  · have hnot : (Catalogue.build additions).isErrorType type = false := by
      rw [← Bool.not_eq_true, hdeclared]
      exact herror
    simp [hnot, herror, eq_comm]

/-- The policy of a configuration whose error type can be used. -/
theorem policyIn?_of_constructs (herror : Catalogue.DeclaresError additions type)
    (hconstructs : Catalogue.Constructs additions type) :
    policyIn? ⟨some type, message⟩ (.build additions) =
      some (.custom (Catalogue.constructorOf additions type) message) := by
  simp only [policyIn?, Catalogue.usableConstructor?, Catalogue.isErrorType_build_iff.mpr herror,
    Catalogue.errorConstructor?_of_constructs herror hconstructs, if_true, Option.map_some]
  rfl

/-- There is no policy while the error type cannot be used. -/
theorem policyIn?_of_not_usable
    (h : ¬ (Catalogue.DeclaresError additions type ∧ Catalogue.Constructs additions type)) :
    policyIn? ⟨some type, message⟩ (.build additions) = none := by
  simp only [policyIn?, Catalogue.usableConstructor?, Option.map_eq_none_iff]
  split
  · rename_i hdeclared
    have herror := Catalogue.isErrorType_build_iff.mp hdeclared
    exact Catalogue.errorConstructor?_of_not_constructs fun hconstructs => h ⟨herror, hconstructs⟩
  · rfl

end FailureConfig

namespace Annotation

/-- With the policy of a custom error type every breach is an error of this type, of the configured
text or else of the rule's own. -/
theorem Coherent.eq_custom_of_judge {a : Annotation} (h : a.Coherent) {k : ErrorConstructor}
    {text : Option String} (hpolicy : a.policy? = some (.custom k text)) {value : Value}
    {parameter : String} {e : Failure} (hjudged : a.judge value parameter = .error e)
    (hbreach : e.isBreach = true) :
    e = .custom (k.construct (text.getD (a.rule.ownText parameter))) := by
  have hcurrent : a.currentPolicy = .ok (.custom k text) := by rw [currentPolicy, hpolicy]
  rw [h.judge_eq_evaluate hcurrent] at hjudged
  cases hrefused : a.refused? value with
  | some types =>
    rw [hrefused] at hjudged
    cases hjudged
    contradiction
  | none =>
    rw [hrefused] at hjudged
    exact (e.bare_eq_custom_iff _).mp (AnnotationRule.evaluate_breach hjudged hbreach)

/-- Without a policy for its error type an annotation judges nothing. -/
theorem judge_of_unresolved {a : Annotation} {type : String} (hpolicy : a.policy? = none)
    (htype : a.failure.errorType = some type) (value : Value) (parameter : String) :
    a.judge value parameter = .error (.configuration (.unresolvedErrorType type)) := by
  simp only [judge, currentPolicy, hpolicy, htype]

/-- Custom error types resolve to themselves. A self-check of an annotation that names an error type
complains if the type, as it was declared last, is no error type, or if it is one and nothing can
build it. Otherwise it says nothing about failures and resolves the type: from then on every breach
is an error of this type, made by the constructor that was registered last, or by the generic one,
from the configured message or else from the text of the rule. A complaint leaves neither a policy
nor a specialized check behind, and while there is no policy, no value is judged. -/
theorem resolves_errorType (additions : List Catalogue.Addition) (rule : AnnotationRule)
    (type : String) (message : Option String) (site : Site) :
    let a := fresh rule ⟨some type, message⟩
    let checked := a.selfCheck site (.build additions)
    (Problem.invalidErrorType.code ∈ Trace.codes checked.1 ↔
      ¬ Catalogue.DeclaresError additions type) ∧
    (Problem.errorTypeNotConstructible.code ∈ Trace.codes checked.1 ↔
      Catalogue.DeclaresError additions type ∧ ¬ Catalogue.Constructs additions type) ∧
    (Catalogue.DeclaresError additions type → Catalogue.Constructs additions type →
      (∀ code ∈ Trace.codes checked.1, ¬ "failure.".toList <+: code.toList) ∧
      checked.2.policy? = some (.custom (Catalogue.constructorOf additions type) message) ∧
      ∀ later target value parameter e,
        (Validator.validate (checked.2.after later) target value parameter).1 = .error e →
        e.isBreach = true →
        e = .custom ⟨type, (Catalogue.constructorOf additions type).build
          (message.getD (rule.ownText parameter))⟩) ∧
    (¬ (Catalogue.DeclaresError additions type ∧ Catalogue.Constructs additions type) →
      checked.2.policy? = none ∧ checked.2.specialization? = none) ∧
    ∀ history, (a.after history).policy? = none → ∀ target value parameter,
      (Validator.validate (a.after history) target value parameter).1 =
        .error (.configuration (.unresolvedErrorType type)) := by
  intro a checked
  have hproblem (p : Problem) : a.failure.problem? (.build additions) = some p ↔ _ :=
    FailureConfig.problem?_build_iff additions type message p
  have hsettled : checked.2 = _ := a.selfCheck_snd site (.build additions)
  refine ⟨?_, ?_, fun herror hconstructs => ?_, fun hunusable => ?_,
    fun history hnone _ value parameter => ?_⟩
  · rw [a.mem_codes_selfCheck_iff _ site rfl, hproblem]
    simp [a, fresh]
  · rw [a.mem_codes_selfCheck_iff _ site rfl, hproblem]
    simp [a, fresh]
  · have hpolicy : checked.2.policy? =
        some (.custom (Catalogue.constructorOf additions type) message) := by
      rw [hsettled]
      exact FailureConfig.policyIn?_of_constructs additions type message herror hconstructs
    refine ⟨?_, hpolicy, ?_⟩
    · intro code hcode hfailure
      obtain ⟨p, hp, -⟩ := a.startsWith_failure_of_mem_codes _ site hcode hfailure
      rcases (hproblem p).mp hp with ⟨hno, -⟩ | ⟨-, hno, -⟩
      · exact hno herror
      · exact hno hconstructs
    · intro later target value parameter e hvalidated hbreach
      have hcoherent : (checked.2.after later).Coherent :=
        ((coherent_fresh rule _).after [.selfCheck site (.build additions)]).after later
      have hkept := (extends_after checked.2 later).policy _ hpolicy
      have hrule : (checked.2.after later).rule = rule := by
        rw [after_rule, hsettled]
        rfl
      have hcustom := hcoherent.eq_custom_of_judge hkept hvalidated hbreach
      rw [hcustom, ErrorConstructor.construct, Catalogue.typeName_constructorOf, hrule]
  · have hnone := FailureConfig.policyIn?_of_not_usable additions type message hunusable
    rw [hsettled]
    simp [fill, a, fresh, hnone]
  · exact judge_of_unresolved hnone (by rw [after_failure]; rfl) value parameter

/-- A type that is declared anew as an error type, between two constructors, has its errors made by
the second one; of an unknown type there are no errors. -/
theorem resolves_errorType_config :
    let additions : List Catalogue.Addition :=
      [.type ⟨"ConfigError", .reference, []⟩, .constructor (.announcing "ConfigError" "old: "),
        .type ⟨"ConfigError", .reference, [.error]⟩,
        .constructor (.announcing "ConfigError" "config: ")]
    let site := Site.parameter ⟨"Server", "start", [⟨0, "host"⟩]⟩ ⟨0, "host"⟩ "Host"
    let a := (fresh .notNull ⟨some "ConfigError", none⟩).selfCheck site (.build additions)
    let b := (fresh .notNull ⟨some "HostError", none⟩).after [.selfCheck site (.build additions)]
    Catalogue.DeclaresError additions "ConfigError" ∧ Catalogue.Constructs additions "ConfigError" ∧
      (Validator.validate (a.2.after [.validate none (.text "localhost") "host"]) none .null
        "host").1 =
        .error (.custom ⟨"ConfigError", .custom "config: The parameter 'host' is null."⟩) ∧
      b.policy? = none ∧
      (Validator.validate b none .null "host").1 =
        .error (.configuration (.unresolvedErrorType "HostError")) := by
  intro additions site a b
  have herror : Catalogue.DeclaresError additions "ConfigError" :=
    ⟨⟨"ConfigError", .reference, [.error]⟩, rfl, .inl List.mem_cons_self⟩
  have hconstructs : Catalogue.Constructs additions "ConfigError" := .inl rfl
  have hunresolved : b.policy? = none := by rfl
  obtain ⟨e, hfails, hbreach⟩ : ∃ e, (Validator.validate
      (a.2.after [.validate none (.text "localhost") "host"]) none .null "host").1 = .error e ∧
        e.isBreach = true := ⟨_, rfl, rfl⟩
  obtain ⟨-, -, hresolved, -, -⟩ :=
    resolves_errorType additions .notNull "ConfigError" none site
  have hcustom := (hresolved herror hconstructs).2.2 _ _ _ _ e hfails hbreach
  obtain ⟨-, -, -, -, hnothing⟩ := resolves_errorType additions .notNull "HostError" none site
  refine ⟨herror, hconstructs, ?_, hunresolved, hnothing _ hunresolved none .null "host"⟩
  rw [hfails, hcustom]
  rfl

end Annotation

end Contracts
