import Contracts.Rule.Primitive

/-!
# The form of a failure

A rule decides, and a policy gives the failure its form. What a rule makes of its value does not
depend on how a breach is reported: a failure is made once if the value breaks the rule, of the
rule's own text, and not at all otherwise. What is reported under any policy follows from what is
reported under the standard one.
-/

namespace Contracts

/-- What a policy makes of an outcome under the standard policy. -/
def FailurePolicy.reform (policy : FailurePolicy) : Outcome → Outcome
  | .error (.violation v) =>
    match policy with
    | .standard => .error (.violation v)
    | .message text => .error (.violation { v with message := text })
    | .custom c text => .error (.custom (c.construct (text.getD v.message)))
  | outcome => outcome

namespace Rule.Primitive

/-- What a rule makes of its value: whether the value keeps the rule, unless the rule itself is
misconfigured. -/
def verdict : Primitive → Except ConfigurationError Bool
  | .notNull value => .ok value.isSome
  | .notEmpty count => .ok (count != some 0)
  | .interval (some v) bounds => bounds.contains v
  | .interval none bounds => bounds.require.map fun _ => true
  | .pattern value (some regex) => .ok (value.all regex.isMatch)
  | .pattern _ none => .error .emptyPattern
  | .patternSource value (some source) options =>
    (options.compile source).map fun regex => value.all regex.isMatch
  | .patternSource _ none _ => .error .emptyPattern

/-- Whether a value is there and breaks its rule. -/
def isBroken (p : Primitive) : Bool :=
  match p.verdict with
  | .ok kept => !kept
  | .error _ => false

/-- What a rule adds to a failure. -/
def decorate (p : Primitive) (failure : Failure) : Failure :=
  match p with
  | .interval (some v) ⟨some min, _, some max, _⟩ => withInterval failure min max v
  | _ => failure

section Actions

variable {m : Type → Type} [Monad m] [LawfulMonad m]

/-- Searching a text for a pattern takes the action to make a failure where there is no match. -/
theorem patternBy_eq (value : Option String) (regex : Regex) (parameter : String)
    (create : String → m Failure) :
    patternBy value (some regex) parameter create =
      if value.all regex.isMatch then pure (.ok ())
      else .error <$> create (patternText parameter) := by
  cases value <;> simp [patternBy]

/-- A rule takes the action to make a failure of its own text where its value breaks it, and takes
no action otherwise. -/
theorem checkBy_eq (p : Primitive) (parameter : String) (create : String → m Failure) :
    p.checkBy parameter create =
      match p.verdict with
      | .error e => pure (.error (.configuration e))
      | .ok true => pure (.ok ())
      | .ok false =>
        (fun failure => .error (p.decorate failure)) <$> create (p.ownText parameter) := by
  cases p with
  | notNull value => cases value <;> simp [checkBy, verdict, decorate, ownText]
  | notEmpty count =>
    match count with
    | none => rfl
    | some 0 => simp [checkBy, verdict, decorate, ownText]
    | some (n + 1) => rfl
  | interval value bounds =>
    obtain ⟨min, minMode, max, maxMode⟩ := bounds
    cases min with
    | none => cases value <;> rfl
    | some min =>
      cases max with
      | none => cases value <;> rfl
      | some max =>
        cases value with
        | none => rfl
        | some v =>
          simp only [checkBy, verdict, Bounds.contains, Bounds.require, decorate, ownText]
          cases Bounds.encloses ⟨some min, minMode, some max, maxMode⟩ min max v <;> simp
  | pattern value regex =>
    cases regex with
    | none => rfl
    | some regex =>
      simp only [checkBy, verdict, patternBy_eq, decorate, ownText]
      cases value.all regex.isMatch <;> simp
  | patternSource value source options =>
    cases source with
    | none => rfl
    | some source =>
      simp only [checkBy, verdict, patternBy_eq, decorate, ownText]
      cases options.compile source with
      | error e => rfl
      | ok regex =>
        simp only [Except.map]
        cases value.all regex.isMatch <;> simp

end Actions

/-- Searching a text for a pattern is searching it with an action that only makes the failure. -/
theorem pattern_eq_patternBy (value : Option String) (regex : Option Regex) (parameter : String)
    (report : Report) :
    Rule.pattern value regex parameter report =
      Id.run (patternBy value regex parameter fun ownText => pure (report ownText)) := by
  cases regex with
  | none => rfl
  | some regex =>
    cases value with
    | none => rfl
    | some text =>
      simp only [Rule.pattern, patternBy]
      cases regex.isMatch text <;> rfl

/-- Checking a rule is checking it with an action that only makes the failure. -/
theorem check_eq_checkBy (p : Primitive) (parameter : String) (report : Report) :
    p.check parameter report =
      Id.run (p.checkBy parameter fun ownText => pure (report ownText)) := by
  cases p with
  | notNull value => cases value <;> rfl
  | notEmpty count =>
    match count with
    | none => rfl
    | some 0 => rfl
    | some (n + 1) => rfl
  | interval value bounds =>
    simp only [check, Rule.interval, checkBy]
    cases bounds.require with
    | error e => rfl
    | ok ends =>
      cases value with
      | none => rfl
      | some v =>
        dsimp only
        cases bounds.encloses ends.1 ends.2 v <;> rfl
  | pattern value regex => exact pattern_eq_patternBy value regex parameter report
  | patternSource value source options =>
    cases source with
    | none => rfl
    | some source =>
      simp only [check, Rule.patternSource, checkBy]
      cases options.compile source with
      | error e => rfl
      | ok regex => exact pattern_eq_patternBy value (some regex) parameter report

/-- The outcome of a check follows from what the rule makes of its value and from how a breach is
reported. -/
theorem check_eq (p : Primitive) (parameter : String) (report : Report) :
    p.check parameter report =
      match p.verdict with
      | .error e => .error (.configuration e)
      | .ok true => .ok ()
      | .ok false => .error (p.decorate (report (p.ownText parameter))) := by
  rw [check_eq_checkBy, checkBy_eq]
  rcases p.verdict with e | (_ | _) <;> rfl

/-- A violation stays one, whatever is added to it. -/
theorem exists_decorate_ofParameter (p : Primitive) (kind : ViolationKind)
    (parameter ownText : String) :
    ∃ v, p.decorate (.ofParameter kind parameter ownText) = .violation v := by
  unfold decorate
  split
  · exact ⟨_, rfl⟩
  · exact ⟨_, rfl⟩

/-- In its default form a rule answers with a violation where its value breaks it. -/
theorem isBroken_iff (p : Primitive) (parameter : String) :
    p.isBroken = true ↔ ∃ v, p.checkDefault parameter = .error (.violation v) := by
  rw [checkDefault, check_eq, isBroken]
  rcases p.verdict with e | (_ | _)
  · exact iff_of_false nofun nofun
  · obtain ⟨v, hv⟩ := p.exists_decorate_ofParameter p.kind parameter (p.ownText parameter)
    exact iff_of_true rfl ⟨v, congrArg Except.error hv⟩
  · exact iff_of_false nofun nofun

/-- A rule has one failure made, of its own text, if its value breaks it, and none otherwise. -/
theorem checkRecording_eq (p : Primitive) (parameter : String) (report : Report) :
    p.checkRecording parameter report =
      (p.check parameter report, if p.isBroken then [p.ownText parameter] else []) := by
  rw [checkRecording, checkBy_eq, check_eq, isBroken]
  rcases p.verdict with e | (_ | _)
  · rfl
  · rfl
  · rfl

/-- A policy gives a decorated violation its form. -/
theorem reform_decorate (p : Primitive) (policy : FailurePolicy) (kind : ViolationKind)
    (parameter ownText : String) :
    policy.reform (.error (p.decorate (.ofParameter kind parameter ownText))) =
      .error (p.decorate (policy.report kind parameter ownText)) := by
  unfold decorate
  split
  · cases policy <;> rfl
  · cases policy <;> rfl

/-- The outcome of a check under a policy follows from that in the default form. -/
theorem check_report (p : Primitive) (parameter : String) (policy : FailurePolicy) :
    p.check parameter (policy.report p.kind parameter) =
      policy.reform (p.checkDefault parameter) := by
  rw [checkDefault, check_eq, check_eq]
  rcases p.verdict with e | (_ | _)
  · rfl
  · exact (p.reform_decorate policy p.kind parameter _).symm
  · rfl

end Rule.Primitive

end Contracts
