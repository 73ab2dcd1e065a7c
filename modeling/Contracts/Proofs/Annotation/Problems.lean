import Contracts.Proofs.Annotation.Admission

/-!
# The codes of problems

Every message of a self-check has the code of a problem. The codes tell the problems apart, and
those of the error type from those of the rule. What a self-check writes about the error type is at
most one message, the same at every site; what it writes about the rule it writes where the type of
the site is declared.
-/

namespace Contracts

namespace Problem

/-- No two problems have one code. -/
theorem code_injective : Function.Injective code := by
  intro p q h
  cases p <;> cases q <;> first | rfl | exact absurd h (by decide)

/-- The codes that begin with the word for failures are those of error types. -/
theorem startsWith_failure_iff (p : Problem) :
    "failure.".toList <+: p.code.toList ↔ p.concernsErrorType = true := by
  cases p <;> decide +kernel

end Problem

namespace Trace

/-- The codes of the messages of a trace. -/
def codes (t : Trace) : List String := t.messages.map (·.code)

@[simp] theorem codes_append (s t : Trace) : codes (s ++ t) = codes s ++ codes t := by
  simp [codes]

/-- The codes of a trace are those of the problems that it is about. -/
theorem Concerns.exists_problem {errorType : Bool} {t : Trace} (h : t.Concerns errorType)
    {code : String} (hcode : code ∈ t.codes) :
    ∃ p : Problem, p.concernsErrorType = errorType ∧ code = p.code := by
  obtain ⟨m, hm, rfl⟩ := List.mem_map.mp hcode
  obtain ⟨p, hp, -, hsame⟩ := h m hm
  exact ⟨p, hp, hsame⟩

/-- No code of a trace is that of a problem of the other kind. -/
theorem Concerns.notMem_codes {errorType : Bool} {t : Trace} (h : t.Concerns errorType)
    {p : Problem} (hp : p.concernsErrorType = !errorType) : p.code ∉ t.codes := by
  intro hcode
  obtain ⟨q, hq, hsame⟩ := h.exists_problem hcode
  rw [← Problem.code_injective hsame, hp] at hq
  exact (Bool.not_eq_self errorType).mp hq

end Trace

/-- The problem with the error type of a configuration. -/
def FailureConfig.problem? (f : FailureConfig) (c : Catalogue) : Option Problem :=
  f.errorType.bind fun type =>
    if !c.isErrorType type then some .invalidErrorType
    else if (c.errorConstructor? type).isNone then some .errorTypeNotConstructible
    else none

/-- What is wrong with the error type is written as one message. -/
theorem FailureConfig.codes_messages (f : FailureConfig) (rule : AnnotationRule) (c : Catalogue) :
    (f.messages rule c).map (·.code) = (f.problem? c).toList.map Problem.code := by
  unfold messages problem?
  cases f.errorType with
  | none => rfl
  | some type =>
    dsimp only [Option.bind_some]
    split
    · rfl
    · split <;> rfl

namespace Annotation

variable (a : Annotation) (c : Catalogue) (site : Site) {p : Problem} {code : String}

/-- A complaint has the code of its problem. -/
theorem codes_complain (problem : Problem) (text : String) :
    Trace.codes [a.complain problem text] = [problem.code] := rfl

/-- Resolving the policy writes about the problem with the error type, if no policy is known. -/
theorem mem_codes_resolvePolicy_iff :
    code ∈ Trace.codes (a.resolvePolicy c).1 ↔
      a.policy? = none ∧ ∃ p, a.failure.problem? c = some p ∧ code = p.code := by
  have hcodes : Trace.codes (a.resolvePolicy c).1 =
      if a.policy?.isSome then [] else (a.failure.problem? c).toList.map Problem.code := by
    rw [Trace.codes, a.resolvePolicy_messages, ← a.failure.codes_messages a.rule c]
    split <;> rfl
  rw [hcodes]
  cases a.policy? with
  | some policy => simp
  | none => cases a.failure.problem? c <;> simp

/-- Of the error type a self-check writes exactly the problem that it has, as long as the policy is
not known. -/
theorem mem_codes_selfCheck_iff (hp : p.concernsErrorType = true) :
    p.code ∈ Trace.codes (a.selfCheck site c).1 ↔
      a.policy? = none ∧ a.failure.problem? c = some p := by
  have hrule := (concerns_checkDeclared (a.resolvePolicy c).2 site c).notMem_codes hp
  rw [selfCheck_fst, Trace.codes_append, List.mem_append, or_iff_left hrule,
    mem_codes_resolvePolicy_iff]
  simp [Problem.code_injective.eq_iff]

/-- Of the rule a self-check writes what checking the rule writes at a declared type. -/
theorem mem_codes_selfCheck_iff_checkType (hp : p.concernsErrorType = false) :
    p.code ∈ Trace.codes (a.selfCheck site c).1 ↔
      ∃ type, site.declaredType? = some type ∧ (c.decl? type).isSome ∧
        p.code ∈ Trace.codes ((a.resolvePolicy c).2.checkType site type c).1 := by
  have hresolved := (a.concerns_resolvePolicy c).notMem_codes hp
  rw [selfCheck_fst, Trace.codes_append, List.mem_append, or_iff_right hresolved, checkDeclared]
  cases htype : site.declaredType? with
  | none => simp [Trace.codes, Trace.messages]
  | some type =>
    cases hdecl : c.decl? type with
    | none => simp [Option.filter, hdecl, Trace.codes, Trace.messages]
    | some d => simp [Option.filter, hdecl]

/-- A self-check writes a code about failures only for a problem with the error type. -/
theorem startsWith_failure_of_mem_codes (hmem : code ∈ Trace.codes (a.selfCheck site c).1)
    (hcode : "failure.".toList <+: code.toList) :
    ∃ p, a.failure.problem? c = some p ∧ code = p.code := by
  rw [selfCheck_fst, Trace.codes_append, List.mem_append, mem_codes_resolvePolicy_iff] at hmem
  rcases hmem with ⟨-, hproblem⟩ | hrule
  · exact hproblem
  · obtain ⟨p, hp, rfl⟩ := (concerns_checkDeclared _ site c).exists_problem hrule
    rw [p.startsWith_failure_iff.mp hcode] at hp
    contradiction

end Annotation

end Contracts
