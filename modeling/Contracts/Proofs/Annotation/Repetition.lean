import Contracts.Proofs.Annotation.Admission

/-!
# Checks that are made again

A check at a site fills the cells that the site has something for, and what it writes can be read
off the annotation that it leaves. Whatever the annotation is used for later in the same model, at
this site or elsewhere, no cell is filled that the site would have filled itself. A check that is
made again therefore writes what it wrote the first time, and changes nothing.
-/

namespace Contracts

namespace Annotation

/-- Whether a use looks at no model but the given one. -/
def Use.StaysIn (c : Catalogue) : Use → Prop
  | .selfCheck _ model => model = c
  | .validate _ _ _ => True

/-- The cells hold all that a check at a site has for them. -/
structure CheckedAt (a : Annotation) (site : Site) (c : Catalogue) : Prop where
  policy : a.policy?.or (a.failure.policyIn? c) = a.policy?
  check : a.specialization?.or ((a.rule.element? c site).bind fun element =>
    a.policy?.map (SpecializedCheck.mk element)) = a.specialization?
  regex : a.regex?.or (if site.isKnown c then a.rule.compiled? else none) = a.regex?

/-- A check leaves nothing that it has for the cells to be filled later. -/
theorem checkedAt_selfCheck (a : Annotation) (site : Site) (c : Catalogue) :
    (a.selfCheck site c).2.CheckedAt site c := by
  rw [selfCheck_snd]
  refine ⟨?_, ?_, ?_⟩
  all_goals simp [fill, Option.or_assoc]

/-- A check that is made again changes nothing. -/
theorem CheckedAt.selfCheck_snd {a : Annotation} {site : Site} {c : Catalogue}
    (h : a.CheckedAt site c) : (a.selfCheck site c).2 = a := by
  rw [a.selfCheck_snd, h.policy]
  simp only [fill, h.policy, h.check, h.regex]

/-- A use in a model gives no policy to an annotation to which the model has none to give. -/
theorem Use.StaysIn.policy?_eq_none {use : Use} {c : Catalogue} (h : use.StaysIn c)
    {f : FailureConfig} (hin : f.policyIn? c = none) : use.policy? f = none := by
  cases use with
  | selfCheck site model =>
    obtain rfl : model = c := h
    exact hin
  | validate target value parameter =>
    have hor := f.policyIn?_or_ownPolicy? c
    rwa [hin] at hor

/-- Once the model was asked for a policy, no use in it gives another. -/
theorem CheckedAt.policy?_afterUse {a : Annotation} {site : Site} {c : Catalogue}
    (h : a.CheckedAt site c) {use : Use} (huse : use.StaysIn c) :
    (a.afterUse use).policy? = a.policy? := by
  rw [afterUse_eq_fill]
  cases hp : a.policy? with
  | some policy => simp [fill, hp]
  | none =>
    -- The model was asked and had no policy to give, and judging has one only where the model has.
    have hin : a.failure.policyIn? c = none := by simpa [hp] using h.policy
    simp [fill, hp, huse.policy?_eq_none hin]

/-- A cell for which there is nothing new goes on to need nothing new once it is filled. -/
theorem or_or_of_or_eq {α : Type} {cell new : Option α} (h : cell.or new = cell)
    (other : Option α) : (cell.or other).or new = cell.or other := by
  cases cell with
  | some content => rfl
  | none =>
    obtain rfl : new = none := h
    exact Option.or_none

/-- What a check has for the cells stays in them. -/
theorem CheckedAt.afterUse {a : Annotation} {site : Site} {c : Catalogue}
    (h : a.CheckedAt site c) {use : Use} (huse : use.StaysIn c) :
    (a.afterUse use).CheckedAt site c := by
  have hpolicy := h.policy?_afterUse huse
  obtain ⟨rule, failure, -, -, -⟩ := extends_after a [use]
  rw [after_cons, after_nil] at rule failure
  refine ⟨?_, ?_, ?_⟩
  · rw [failure, hpolicy, h.policy]
  · rw [rule, hpolicy, afterUse_eq_fill]
    exact or_or_of_or_eq h.check _
  · rw [rule, afterUse_eq_fill]
    exact or_or_of_or_eq h.regex _

/-- What a check has for the cells stays in them, whatever happens in the model. -/
theorem CheckedAt.after {a : Annotation} {site : Site} {c : Catalogue} (h : a.CheckedAt site c)
    {history : List Use} (hhistory : ∀ use ∈ history, use.StaysIn c) :
    (a.after history).CheckedAt site c := by
  induction history generalizing a with
  | nil => exact h
  | cons use rest ih =>
    exact ih (h.afterUse (hhistory use List.mem_cons_self)) fun later hlater =>
      hhistory later (List.mem_cons_of_mem _ hlater)

/-- Two annotations that a check at a site cannot tell apart. -/
structure AlikeAt (a b : Annotation) (site : Site) (c : Catalogue) : Prop where
  rule : b.rule = a.rule
  failure : b.failure = a.failure
  policy : b.policy?.or (a.failure.policyIn? c) = a.policy?.or (a.failure.policyIn? c)
  element : ∀ element, a.rule.element? c site = some element →
    (a.policy?.or (a.failure.policyIn? c)).isSome → b.boundTo element = a.boundTo element
  regex : b.regex?.or a.rule.compiled? = a.regex?.or a.rule.compiled?

/-- A check cannot tell an annotation from itself. -/
theorem AlikeAt.refl (a : Annotation) (site : Site) (c : Catalogue) : a.AlikeAt a site c :=
  ⟨rfl, rfl, rfl, fun _ _ _ => rfl, rfl⟩

/-- What a check cannot tell apart stepwise it cannot tell apart at all. -/
theorem AlikeAt.trans {a b e : Annotation} {site : Site} {c : Catalogue}
    (hab : a.AlikeAt b site c) (hbe : b.AlikeAt e site c) : a.AlikeAt e site c := by
  obtain ⟨rule, failure, policy, element, regex⟩ := hbe
  rw [hab.failure, hab.policy] at policy
  rw [hab.rule, hab.failure, hab.policy] at element
  rw [hab.rule, hab.regex] at regex
  refine ⟨rule.trans hab.rule, failure.trans hab.failure, policy, ?_, regex⟩
  intro name hname hknown
  exact (element name hname hknown).trans (hab.element name hname hknown)

/-- Resolving the policy writes what is wrong with the error type, unless a policy is known
afterwards. -/
theorem resolvePolicy_messages_or (a : Annotation) (c : Catalogue) :
    (a.resolvePolicy c).1.messages =
      if (a.policy?.or (a.failure.policyIn? c)).isSome then []
      else a.failure.messages a.rule c := by
  rw [a.resolvePolicy_messages]
  cases hp : a.policy? with
  | some policy => rfl
  | none =>
    cases hin : a.failure.policyIn? c with
    | none => rfl
    | some policy => simpa using (a.failure.messages_eq_nil_iff a.rule c).mpr (by simp [hin])

/-- Preparing a pattern writes what is wrong with it, unless a compiled pattern is known
afterwards. -/
theorem preparePattern_messages_or (a : Annotation) (r : PatternRule)
    (hrule : a.rule = .pattern r) :
    (a.preparePattern r).1.messages =
      if (a.regex?.or a.rule.compiled?).isSome then [] else r.messages := by
  cases hr : a.regex? with
  | some regex => simp [preparePattern, hr, Trace.messages]
  | none =>
    rw [a.preparePattern_messages r hrule (.inl hr), hrule]
    have hcompiled : (AnnotationRule.pattern r).compiled? = r.compile.toOption := rfl
    rw [hcompiled]
    unfold PatternRule.messages
    cases r.compile with
    | ok regex => rfl
    | error e => rfl

/-- Annotations that differ in nothing that checking a type looks at write the same. -/
theorem checkType_messages_congr {a b : Annotation} {site : Site} {c : Catalogue} {type : String}
    (hrule : b.rule = a.rule) (hfailure : b.failure = a.failure) (hpolicy : b.policy? = a.policy?)
    (helement : ∀ element, a.rule = .notEmpty → c.boundElement? type = some element →
      (a.policy?.or a.failure.ownPolicy?).isSome → b.boundTo element = a.boundTo element)
    (hregex : b.regex?.or a.rule.compiled? = a.regex?.or a.rule.compiled?) :
    (b.checkType site type c).1.messages = (a.checkType site type c).1.messages := by
  unfold checkType complain
  rw [hrule]
  cases ha : a.rule with
  | notNull => rfl
  | interval r =>
    simp only [Trace.messages_append, boundProblems_messages _ r (hrule.trans ha),
      boundProblems_messages _ r ha]
  | pattern r =>
    have hprepared : (b.preparePattern r).1.messages = (a.preparePattern r).1.messages := by
      rw [preparePattern_messages_or _ r (hrule.trans ha), preparePattern_messages_or _ r ha, hrule,
        hregex]
    simp only [Trace.messages_append, hprepared]
  | notEmpty =>
    dsimp only
    cases hplain : c.hasCapability type .text || c.hasCapability type .countable with
    | true => rfl
    | false =>
      cases hof : c.elementTypeOf type with
      | none => rfl
      | some element =>
        have hbinds : c.boundElement? type = some element := by
          simp [Catalogue.boundElement?, hplain, hof]
        change (b.specialize element).1.messages = (a.specialize element).1.messages
        rw [specialize_messages, specialize_messages, hpolicy, hfailure, hrule]
        cases hp : (a.policy?.or a.failure.ownPolicy?).isSome with
        | true => rw [helement element ha hbinds hp]
        | false => simp

/-- A check writes the same about annotations that it cannot tell apart. -/
theorem AlikeAt.selfCheck_messages {a b : Annotation} {site : Site} {c : Catalogue}
    (h : a.AlikeAt b site c) :
    (b.selfCheck site c).1.messages = (a.selfCheck site c).1.messages := by
  have hresolved : (b.resolvePolicy c).1.messages = (a.resolvePolicy c).1.messages := by
    rw [b.resolvePolicy_messages_or, a.resolvePolicy_messages_or, h.failure, h.rule, h.policy]
  unfold selfCheck
  cases htype : site.declaredType? with
  | none => exact hresolved
  | some type =>
    cases hdecl : c.decl? type with
    | none => simpa [hdecl] using hresolved
    | some d =>
      have hchecked : ((b.resolvePolicy c).2.checkType site type c).1.messages =
          ((a.resolvePolicy c).2.checkType site type c).1.messages := by
        rw [b.resolvePolicy_snd, a.resolvePolicy_snd]
        refine checkType_messages_congr h.rule h.failure ?_ ?_ ?_
        · simpa [fill, h.failure] using h.policy
        · intro element hrule hbinds hknown
          have hknown' : (a.policy?.or (a.failure.policyIn? c)).isSome := by
            simpa [fill, Option.or_assoc, FailureConfig.policyIn?_or_ownPolicy?] using hknown
          have helement : a.rule.element? c site = some element := by
            have hrule' : a.rule = .notEmpty := hrule
            simp [hrule', AnnotationRule.element?, htype, hbinds]
          simpa [boundTo, fill] using h.element element helement hknown'
        · simpa [fill] using h.regex
      simp only [hdecl, Trace.messages_append, hresolved, hchecked]

/-- A check cannot tell the annotation that it leaves from the one that it found. -/
theorem alikeAt_selfCheck (a : Annotation) (site : Site) (c : Catalogue) :
    a.AlikeAt (a.selfCheck site c).2 site c := by
  rw [selfCheck_snd]
  refine ⟨rfl, rfl, ?_, ?_, ?_⟩
  · simp [fill, Option.or_assoc]
  · intro element helement hknown
    obtain ⟨policy, hpolicy⟩ := Option.isSome_iff_exists.mp hknown
    simp only [boundTo, fill, helement, hpolicy, Option.bind_some, Option.map_some]
    cases a.specialization? <;> rfl
  · cases hk : site.isKnown c <;> simp [fill, Option.or_assoc]

/-- A check that was made cannot tell whether the annotation was used since. -/
theorem CheckedAt.alikeAt_afterUse {a : Annotation} {site : Site} {c : Catalogue}
    (h : a.CheckedAt site c) {use : Use} (huse : use.StaysIn c) :
    a.AlikeAt (a.afterUse use) site c := by
  have hextends := extends_after a [use]
  rw [after_cons, after_nil] at hextends
  refine ⟨hextends.rule, hextends.failure, by rw [h.policy?_afterUse huse], ?_, ?_⟩
  · -- A site with an element type has the annotation bound by now, and bound it stays.
    intro element helement hknown
    obtain ⟨policy, hpolicy⟩ := Option.isSome_iff_exists.mp (h.policy ▸ hknown)
    have hcheck := h.check
    rw [helement, hpolicy] at hcheck
    obtain ⟨check, hbound⟩ : ∃ check, a.specialization? = some check := by
      cases hs : a.specialization? with
      | none => simp [hs] at hcheck
      | some check => exact ⟨check, rfl⟩
    simp [boundTo, hbound, hextends.check check hbound]
  · rw [afterUse_eq_fill]
    simp only [fill]
    split
    · rw [Option.or_assoc, Option.or_self]
    · rw [Option.or_none]

/-- A check that was made cannot tell what happened to the annotation since in the same model. -/
theorem CheckedAt.alikeAt_after {a : Annotation} {site : Site} {c : Catalogue}
    (h : a.CheckedAt site c) {history : List Use} (hhistory : ∀ use ∈ history, use.StaysIn c) :
    a.AlikeAt (a.after history) site c := by
  induction history generalizing a with
  | nil => exact AlikeAt.refl a site c
  | cons use rest ih =>
    have huse := hhistory use List.mem_cons_self
    have hrest : ∀ later ∈ rest, later.StaysIn c := fun later hlater =>
      hhistory later (List.mem_cons_of_mem _ hlater)
    exact (h.alikeAt_afterUse huse).trans (ih (h.afterUse huse) hrest)

/-- A check that is made again, whatever happened to the annotation since in the same model, writes
what it wrote the first time and changes nothing. -/
theorem selfCheck_again (a : Annotation) (site : Site) (c : Catalogue) {history : List Use}
    (hhistory : ∀ use ∈ history, use.StaysIn c) :
    let later := (a.selfCheck site c).2.after history
    (later.selfCheck site c).1.messages = (a.selfCheck site c).1.messages ∧
      (later.selfCheck site c).2 = later := by
  have hchecked := a.checkedAt_selfCheck site c
  have halike := (a.alikeAt_selfCheck site c).trans (hchecked.alikeAt_after hhistory)
  exact ⟨halike.selfCheck_messages, (hchecked.after hhistory).selfCheck_snd⟩

end Annotation

end Contracts
