import Contracts.Weaving.Scan

/-!
# What self-checks write about

The self-check of an annotation writes nothing but errors, each about one problem, so an annotation
is admitted exactly when its checks write no message at all. Resolving the policy writes about the
error type, and the check of the rule against the type of the site never does.
-/

namespace Contracts

/-- Whether a problem is one of the error type. -/
def Problem.concernsErrorType : Problem → Bool
  | .invalidErrorType => true
  | .errorTypeNotConstructible => true
  | _ => false

namespace Trace

/-- All messages of a trace reject their declaration. -/
def OnlyErrors (t : Trace) : Prop := ∀ m ∈ t.messages, m.isError = true

/-- The trace of nothing has only errors. -/
theorem onlyErrors_nil : OnlyErrors [] := by simp [OnlyErrors, messages]

/-- An event alone is no message. -/
theorem onlyErrors_event (e : Event) : OnlyErrors [.event e] := by
  simp [OnlyErrors, messages, message?]

/-- Traces of errors can be put behind each other. -/
theorem OnlyErrors.append {s t : Trace} (hs : OnlyErrors s) (ht : OnlyErrors t) :
    OnlyErrors (s ++ t) := by
  intro m hm
  rw [messages_append, List.mem_append] at hm
  exact hm.elim (hs m) (ht m)

/-- Where all messages are errors, there is an error as soon as there is a message. -/
theorem OnlyErrors.hasError {t : Trace} (h : OnlyErrors t) : t.hasError = !t.messages.isEmpty := by
  unfold Trace.hasError
  cases hm : t.messages with
  | nil => rfl
  | cons m rest =>
    have hfirst : m.isError = true := h m (by simp [hm])
    simp [hfirst]

/-- All messages of a trace are errors about problems of the error type, or all about problems of
the rule. -/
def Concerns (errorType : Bool) (t : Trace) : Prop :=
  ∀ m ∈ t.messages, ∃ p : Problem, p.concernsErrorType = errorType ∧ m.isError = true ∧
    m.code = p.code

variable {errorType : Bool} {s t : Trace}

/-- A trace without messages is about nothing. -/
theorem concerns_nil : Concerns errorType [] := by simp [Concerns, messages]

/-- An event alone is about nothing. -/
theorem concerns_event (e : Event) : Concerns errorType [.event e] := by
  simp [Concerns, messages, message?]

/-- Traces about the same, one after the other. -/
theorem Concerns.append (hs : Concerns errorType s) (ht : Concerns errorType t) :
    Concerns errorType (s ++ t) := by
  intro m hm
  rw [messages_append, List.mem_append] at hm
  exact hm.elim (hs m) (ht m)

/-- Messages about problems are errors. -/
theorem Concerns.onlyErrors (h : Concerns errorType t) : OnlyErrors t := by
  intro m hm
  obtain ⟨-, -, herror, -⟩ := h m hm
  exact herror

end Trace

namespace Annotation

variable (a : Annotation) {errorType : Bool} {problem : Problem}

/-- A complaint is an error about its problem. -/
theorem concerns_complain (h : problem.concernsErrorType = errorType) (text : String) :
    Trace.Concerns errorType [a.complain problem text] := by
  intro m hm
  obtain rfl := List.mem_singleton.mp hm
  exact ⟨problem, h, rfl, rfl⟩

/-- Complaining unless a condition holds. -/
theorem concerns_unless (condition : Bool) (h : problem.concernsErrorType = errorType)
    (text : String) :
    Trace.Concerns errorType (if condition then [] else [a.complain problem text]) := by
  cases condition with
  | true => exact Trace.concerns_nil
  | false => exact a.concerns_complain h text

/-- Resolving the policy writes about the error type. -/
theorem concerns_resolvePolicy (c : Catalogue) : Trace.Concerns true (a.resolvePolicy c).1 := by
  unfold resolvePolicy
  cases a.failure.errorType with
  | none => exact Trace.concerns_nil
  | some type =>
    dsimp only
    split
    · exact Trace.concerns_nil
    · split
      · exact a.concerns_complain rfl _
      · split
        · exact a.concerns_complain rfl _
        · exact Trace.concerns_event _

/-- Binding to an element type writes about the rule. -/
theorem concerns_specialize (element : String) : Trace.Concerns false (a.specialize element).1 := by
  unfold specialize
  split
  · exact Trace.concerns_nil
  · split
    · exact Trace.concerns_event _
    · split
      · exact Trace.concerns_nil
      · exact a.concerns_complain rfl _

/-- What is wrong with the bounds of an interval is wrong with the rule. -/
theorem concerns_boundProblems (r : IntervalRule) : Trace.Concerns false (a.boundProblems r) := by
  unfold boundProblems
  split
  · exact a.concerns_complain rfl _
  · exact a.concerns_complain rfl _
  · split
    · exact Trace.concerns_nil
    · exact a.concerns_complain rfl _

/-- Preparing a pattern writes about the rule. -/
theorem concerns_preparePattern (r : PatternRule) :
    Trace.Concerns false (a.preparePattern r).1 := by
  unfold preparePattern
  split
  · exact Trace.concerns_nil
  · split
    · exact Trace.concerns_nil
    · exact a.concerns_complain rfl _
    · exact a.concerns_complain rfl _

/-- Checking the rule against a type writes about the rule. -/
theorem concerns_checkType (site : Site) (type : String) (c : Catalogue) :
    Trace.Concerns false (a.checkType site type c).1 := by
  unfold checkType
  cases a.rule with
  | notNull => exact a.concerns_unless _ rfl _
  | notEmpty =>
    dsimp only
    split
    · exact Trace.concerns_nil
    · split
      · exact a.concerns_specialize _
      · exact a.concerns_complain rfl _
  | interval r => exact (a.concerns_unless _ rfl _).append (a.concerns_boundProblems r)
  | pattern r => exact (a.concerns_unless _ rfl _).append (a.concerns_preparePattern r)

/-- What a self-check writes about the rule, at the type of a site if that is declared. -/
def checkDeclared (a : Annotation) (site : Site) (c : Catalogue) : Trace :=
  match site.declaredType?.filter fun type => (c.decl? type).isSome with
  | none => []
  | some type => (a.checkType site type c).1

/-- A self-check resolves the policy and then checks the rule. -/
theorem selfCheck_fst (site : Site) (c : Catalogue) :
    (a.selfCheck site c).1 =
      (a.resolvePolicy c).1 ++ (a.resolvePolicy c).2.checkDeclared site c := by
  unfold selfCheck checkDeclared
  cases site.declaredType? with
  | none => simp
  | some type => cases hdecl : c.decl? type <;> simp [Option.filter, hdecl]

/-- Checking the rule at a site writes about the rule. -/
theorem concerns_checkDeclared (site : Site) (c : Catalogue) :
    Trace.Concerns false (a.checkDeclared site c) := by
  unfold checkDeclared
  split
  · exact Trace.concerns_nil
  · exact a.concerns_checkType site _ c

/-- A self-check writes errors only. -/
theorem onlyErrors_selfCheck (site : Site) (c : Catalogue) :
    Trace.OnlyErrors (a.selfCheck site c).1 := by
  rw [selfCheck_fst]
  exact (a.concerns_resolvePolicy c).onlyErrors.append (concerns_checkDeclared _ site c).onlyErrors

end Annotation

/-- The complaint about an undeclared type is an error. -/
theorem Site.onlyErrors_unknownType (site : Site) (c : Catalogue) :
    Trace.OnlyErrors (site.unknownType c) := by
  unfold unknownType
  split
  · exact Trace.onlyErrors_nil
  · split
    · exact Trace.onlyErrors_nil
    · simp [Trace.OnlyErrors, Trace.messages, Trace.message?, Message.isError]

/-- Checks of an annotation along sites write errors only. -/
theorem Visit.onlyErrors_checkAt (id : Nat) (c : Catalogue) (store : Store Annotation)
    (sites : List Site) : Trace.OnlyErrors (checkAt id c store sites).1 := by
  induction sites generalizing store with
  | nil => exact Trace.onlyErrors_nil
  | cons site rest ih =>
    exact ((site.onlyErrors_unknownType c).append ((store id).onlyErrors_selfCheck site c)).append
      (ih _)

end Contracts
