import Contracts.Proofs.Annotation.History
import Contracts.Proofs.Annotation.Severity

/-!
# What admitting an annotation writes

The messages of an admission are computed here from the rule, the failure configuration and the
model alone: first whether the type of the site is declared, then what is wrong with the error
type, then what the rule has to say about a declared type. A method-level annotation is checked at
one parameter after the other. It repeats these messages for each, and a not-empty rule also
complains about every element type that differs from the first one it was bound to.
-/

namespace Contracts

/-- A message of a rule about a problem. -/
def AnnotationRule.complaint (rule : AnnotationRule) (problem : Problem) (text : String) :
    Message := ⟨.error, problem.code, text, rule.source⟩

/-- What is wrong with the error type of a configuration. -/
def FailureConfig.messages (f : FailureConfig) (rule : AnnotationRule) (c : Catalogue) :
    List Message :=
  match f.errorType with
  | none => []
  | some type =>
    if !c.isErrorType type then
      [rule.complaint .invalidErrorType ("The type '" ++ type ++ "' is not an error type.")]
    else if (c.errorConstructor? type).isNone then
      [rule.complaint .errorTypeNotConstructible
        ("The error type '" ++ type ++ "' cannot be constructed from a message.")]
    else []

/-- What is wrong with the bounds of an interval rule: an absent lower bound, else an absent upper
bound, else bounds that cannot be compared. -/
def IntervalRule.messages (r : IntervalRule) : List Message :=
  let rule := AnnotationRule.interval r
  if r.min.isNull then [rule.complaint .missingBound "The interval bound 'min' is absent."]
  else if r.max.isNull then [rule.complaint .missingBound "The interval bound 'max' is absent."]
  else if r.min.isComparableWith r.max then []
  else
    [rule.complaint .boundTypeMismatch
      ("The interval bounds '" ++ r.min.display ++ "' (" ++ r.min.kind ++ ") and '" ++
        r.max.display ++ "' (" ++ r.max.kind ++ ") cannot be compared.")]

/-- What is wrong with the pattern of a rule. -/
def PatternRule.messages (r : PatternRule) : List Message :=
  let rule := AnnotationRule.pattern r
  match r.compile with
  | .ok _ => []
  | .error .emptyPattern => [rule.complaint .emptyPattern "The pattern is empty."]
  | .error e => [rule.complaint .invalidPattern (e.display ++ ".")]

namespace AnnotationRule

/-- What a rule has to say about the declaration of the type of a site. -/
def typeMessages (rule : AnnotationRule) (c : Catalogue) (site : Site) (type : String)
    (d : TypeDecl) : List Message :=
  let of := "The type '" ++ type ++ "' of " ++ site.display
  match rule with
  | .notNull =>
    match d.shape with
    | .reference => []
    | .optional _ => []
    | _ => [rule.complaint .typeNotNullable (of ++ " is not nullable.")]
  | .notEmpty =>
    if !c.hasCapability type .text && !c.hasCapability type .countable &&
        (c.elementTypeOf type).isNone then
      [rule.complaint .typeNotCountable (of ++ " is neither text nor a collection.")]
    else []
  | .interval r =>
    (if c.hasCapability type .ordered then []
      else [rule.complaint .typeNotOrdered (of ++ " has no natural ordering.")]) ++ r.messages
  | .pattern r =>
    (if c.hasCapability type .text then []
      else [rule.complaint .typeNotText (of ++ " is not text.")]) ++ r.messages

/-- What is written at a site of some type, in this order: that the type is not declared, what is
wrong with the error type, and what the rule has to say about a declared type. -/
def messagesAt (rule : AnnotationRule) (failure : FailureConfig) (c : Catalogue) (site : Site)
    (type : String) : List Message :=
  (if (c.decl? type).isNone then
    [⟨.error, "scan.unknown_type",
      "The type '" ++ type ++ "' of " ++ site.display ++ " is not declared.", scanSource⟩]
    else []) ++
  failure.messages rule c ++
  match c.decl? type with
  | none => []
  | some d => rule.typeMessages c site type d

/-- What a rule that is bound to an element type writes at a site that would bind it to another
one, provided that its error type is usable. -/
def conflictAt (rule : AnnotationRule) (failure : FailureConfig) (c : Catalogue)
    (bound? : Option String) (site : Site) : List Message :=
  match bound?, rule.element? c site with
  | some bound, some element =>
    if bound ≠ element ∧ failure.messages rule c = [] then
      [rule.complaint .conflictingElementType
        ("The annotation is bound to elements of type '" ++ bound ++
          "' and cannot also check '" ++ element ++ "'.")]
    else []
  | _, _ => []

/-- What is written at a site; a method as a whole has no type for the rule to look at. -/
def siteMessages (rule : AnnotationRule) (failure : FailureConfig) (c : Catalogue) (site : Site) :
    List Message :=
  match site.declaredType? with
  | none => failure.messages rule c
  | some type => rule.messagesAt failure c site type

/-- What is written along sites that are checked one after the other: the messages of each site,
and behind them a conflict with the first element type that an earlier site bound the rule to. -/
def messagesAlong (rule : AnnotationRule) (failure : FailureConfig) (c : Catalogue)
    (sites : List Site) : List Message :=
  sites.zipIdx.flatMap fun (site, k) =>
    rule.siteMessages failure c site ++
      rule.conflictAt failure c ((sites.take k).findSome? (rule.element? c)) site

/-- A site that binds to no element type is in no conflict. -/
theorem conflictAt_of_unbound {rule : AnnotationRule} {failure : FailureConfig} {c : Catalogue}
    {bound? : Option String} {site : Site} (h : rule.element? c site = none) :
    rule.conflictAt failure c bound? site = [] := by
  unfold conflictAt
  rw [h]
  cases bound? <;> rfl

end AnnotationRule

namespace FailureConfig

/-- The error type of a configuration has a problem exactly when no policy comes of it. -/
theorem messages_eq_nil_iff (f : FailureConfig) (rule : AnnotationRule) (c : Catalogue) :
    f.messages rule c = [] ↔ (f.policyIn? c).isSome := by
  unfold messages policyIn? Catalogue.usableConstructor?
  cases f.errorType with
  | none => simp
  | some type =>
    dsimp only
    cases c.isErrorType type with
    | false => simp
    | true => cases c.errorConstructor? type <;> simp

end FailureConfig

namespace Annotation

/-- An annotation that was checked against one model only, which has bound it to an element type
or to none. -/
structure CheckedIn (a : Annotation) (c : Catalogue) (bound? : Option String) : Prop where
  policy : a.policy? = none ∨ a.policy? = a.failure.policyIn? c
  regex : a.regex? = none ∨ a.regex? = a.rule.compiled?
  element : a.specialization?.map (·.element) = (a.failure.policyIn? c).bind fun _ => bound?

/-- A fresh annotation was checked against no model. -/
theorem checkedIn_fresh (rule : AnnotationRule) (failure : FailureConfig) (c : Catalogue) :
    (fresh rule failure).CheckedIn c none :=
  ⟨.inl rfl, .inl rfl, by simp [fresh]⟩

/-- After a check against the model the policy is what the model makes of the configuration. -/
theorem CheckedIn.policy?_or {a : Annotation} {c : Catalogue} {bound? : Option String}
    (h : a.CheckedIn c bound?) : a.policy?.or (a.failure.policyIn? c) = a.failure.policyIn? c := by
  rcases h.policy with hp | hp <;> simp [hp]

/-- A check binds an annotation that was not bound before. -/
theorem CheckedIn.selfCheck {a : Annotation} {c : Catalogue} {bound? : Option String}
    (h : a.CheckedIn c bound?) (site : Site) :
    (a.selfCheck site c).2.CheckedIn c (bound?.or (a.rule.element? c site)) := by
  rw [selfCheck_snd, h.policy?_or]
  refine ⟨.inr h.policy?_or, ?_, ?_⟩
  · rcases h.regex with hr | hr
    · cases hk : site.isKnown c <;> simp [fill, hr]
    · right
      cases hk : site.isKnown c <;> simp [fill, hr]
  · have hbound := h.element
    simp only [fill, Option.map_or, hbound]
    cases a.failure.policyIn? c with
    | none => simp
    | some policy => cases a.rule.element? c site <;> simp

/-- Resolving the policy writes what is wrong with the error type, unless the policy is known. -/
theorem resolvePolicy_messages (a : Annotation) (c : Catalogue) :
    (a.resolvePolicy c).1.messages =
      if a.policy?.isSome then [] else a.failure.messages a.rule c := by
  unfold resolvePolicy FailureConfig.messages
  cases a.failure.errorType with
  | none => cases a.policy? <;> rfl
  | some type =>
    dsimp only
    cases a.policy?.isSome with
    | true => rfl
    | false =>
      cases c.isErrorType type with
      | false => rfl
      | true => cases c.errorConstructor? type <;> rfl

/-- Checks against one model repeat what is wrong with the error type. -/
theorem CheckedIn.resolvePolicy_messages {a : Annotation} {c : Catalogue} {bound? : Option String}
    (h : a.CheckedIn c bound?) :
    (a.resolvePolicy c).1.messages = a.failure.messages a.rule c := by
  rw [a.resolvePolicy_messages]
  rcases h.policy with hp | hp
  · simp [hp]
  · cases hin : a.failure.policyIn? c with
    | none => simp [hp, hin]
    | some policy =>
      have hnil := (a.failure.messages_eq_nil_iff a.rule c).mpr (by simp [hin])
      simp [hp, hin, hnil]

/-- Judging the bounds of an interval rule writes its messages. -/
theorem boundProblems_messages (a : Annotation) (r : IntervalRule) (hrule : a.rule = .interval r) :
    Trace.messages (a.boundProblems r) = r.messages := by
  unfold boundProblems IntervalRule.messages complain
  rw [hrule]
  cases hmin : r.min.isNull with
  | true =>
    rw [Value.present_of_isNull hmin]
    rfl
  | false =>
    rw [Value.present_of_isNull_eq_false hmin]
    cases hmax : r.max.isNull with
    | true =>
      rw [Value.present_of_isNull hmax]
      rfl
    | false =>
      rw [Value.present_of_isNull_eq_false hmax]
      cases hcomparable : r.min.isComparableWith r.max <;> simp [hcomparable] <;> rfl

/-- Preparing a pattern writes its messages, also when the compiled pattern was kept. -/
theorem preparePattern_messages (a : Annotation) (r : PatternRule) (hrule : a.rule = .pattern r)
    (hregex : a.regex? = none ∨ a.regex? = a.rule.compiled?) :
    (a.preparePattern r).1.messages = r.messages := by
  have hkept : ∀ regex, a.regex? = some regex → r.compile = .ok regex := by
    intro regex h
    rcases hregex with hnone | hsame
    · simp [h] at hnone
    · have hcompiled : r.compile.toOption = some regex := by
        rw [← h, hsame, hrule]
        rfl
      cases hc : r.compile <;> simp_all [Except.toOption]
  unfold preparePattern PatternRule.messages complain
  rw [hrule]
  cases h : a.regex? with
  | some regex => simp [hkept regex h, Trace.messages]
  | none =>
    cases r.compile with
    | ok regex => rfl
    | error e => cases e <;> rfl

/-- The element type that a check for some element type finds an annotation bound to: the one it was
bound to before, or else that of the check. -/
def boundTo (a : Annotation) (element : String) : String :=
  (a.specialization?.map (·.element)).getD element

/-- Binding to an element type writes a conflict with the one that the annotation is bound to, if a
policy is known. -/
theorem specialize_messages (a : Annotation) (element : String) :
    (a.specialize element).1.messages =
      if (a.policy?.or a.failure.ownPolicy?).isSome ∧ a.boundTo element ≠ element then
        [a.rule.complaint .conflictingElementType
          ("The annotation is bound to elements of type '" ++ a.boundTo element ++
            "' and cannot also check '" ++ element ++ "'.")]
      else [] := by
  obtain ⟨rule, failure, policy?, check?, regex?⟩ := a
  simp only [specialize, currentPolicy_eq, boundTo]
  cases policy?.or failure.ownPolicy? with
  | none => rfl
  | some policy =>
    cases check? with
    | none => simp [Trace.messages, Trace.message?]
    | some s => by_cases hs : s.element = element <;> simp [hs] <;> rfl

/-- A resolved annotation writes a conflict when a site would bind it to another element type. -/
theorem CheckedIn.specialize_messages {a : Annotation} {c : Catalogue} {bound? : Option String}
    (h : a.CheckedIn c bound?) (hpolicy : a.policy? = a.failure.policyIn? c) {site : Site}
    {element : String} (helement : a.rule.element? c site = some element) :
    (a.specialize element).1.messages = a.rule.conflictAt a.failure c bound? site := by
  have hbound := h.element
  have hnil := a.failure.messages_eq_nil_iff a.rule c
  rw [a.specialize_messages element, hpolicy, FailureConfig.policyIn?_or_ownPolicy?]
  unfold AnnotationRule.conflictAt boundTo
  rw [helement]
  cases hp : a.failure.policyIn? c with
  | none =>
    have hmessages : a.failure.messages a.rule c ≠ [] := by simp [hnil, hp]
    cases bound? <;> simp [hmessages]
  | some policy =>
    have hmessages : a.failure.messages a.rule c = [] := by simp [hnil, hp]
    rw [hp, Option.bind_some] at hbound
    rw [hbound]
    cases bound? <;> simp [hmessages]

/-- A not-empty rule either complains about the type, or is bound to its element type, or has
nothing to say about a type that is text or countable. -/
theorem CheckedIn.checkType_messages_notEmpty {a : Annotation} {c : Catalogue}
    {bound? : Option String} (h : a.CheckedIn c bound?)
    (hpolicy : a.policy? = a.failure.policyIn? c)
    (hrule : a.rule = .notEmpty) {site : Site} {type : String}
    (htype : site.declaredType? = some type) (d : TypeDecl) :
    (a.checkType site type c).1.messages =
      a.rule.typeMessages c site type d ++ a.rule.conflictAt a.failure c bound? site := by
  have hbinds : a.rule.element? c site = c.boundElement? type := by
    simp [hrule, AnnotationRule.element?, htype]
  have hnone : c.boundElement? type = none → a.rule.conflictAt a.failure c bound? site = [] :=
    fun hfree => AnnotationRule.conflictAt_of_unbound (hbinds.trans hfree)
  unfold checkType AnnotationRule.typeMessages complain
  simp only [hrule, ← Bool.not_or] at hnone ⊢
  cases hplain : c.hasCapability type .text || c.hasCapability type .countable with
  | true =>
    rw [hnone (by simp [Catalogue.boundElement?, hplain])]
    simp [Trace.messages]
  | false =>
    cases helement : c.elementTypeOf type with
    | none =>
      rw [hnone (by simp [Catalogue.boundElement?, helement])]
      rfl
    | some element =>
      have hbound : a.rule.element? c site = some element := by
        simp [hbinds, Catalogue.boundElement?, hplain, helement]
      have hconflict := h.specialize_messages hpolicy hbound
      rw [hrule] at hconflict
      simp [hconflict]

/-- Checking the rule against a declared type writes what the rule has to say about the type, and
then any conflict with the element type bound before. -/
theorem CheckedIn.checkType_messages {a : Annotation} {c : Catalogue} {bound? : Option String}
    (h : a.CheckedIn c bound?) (hpolicy : a.policy? = a.failure.policyIn? c) {site : Site}
    {type : String} (htype : site.declaredType? = some type) {d : TypeDecl}
    (hdecl : c.decl? type = some d) :
    (a.checkType site type c).1.messages =
      a.rule.typeMessages c site type d ++ a.rule.conflictAt a.failure c bound? site := by
  cases hrule : a.rule with
  | notEmpty =>
    rw [← hrule]
    exact h.checkType_messages_notEmpty hpolicy hrule htype d
  | notNull =>
    rw [AnnotationRule.conflictAt_of_unbound rfl, List.append_nil]
    simp only [checkType, AnnotationRule.typeMessages, Catalogue.isNullable, hdecl, Option.any_some,
      TypeDecl.isNullable, complain, hrule]
    cases d.shape <;> rfl
  | interval r =>
    rw [AnnotationRule.conflictAt_of_unbound rfl, List.append_nil]
    simp only [checkType, AnnotationRule.typeMessages, Trace.messages_append,
      a.boundProblems_messages r hrule, complain, hrule]
    cases c.hasCapability type .ordered <;> rfl
  | pattern r =>
    rw [AnnotationRule.conflictAt_of_unbound rfl, List.append_nil]
    simp only [checkType, AnnotationRule.typeMessages, Trace.messages_append,
      a.preparePattern_messages r hrule h.regex, complain, hrule]
    cases c.hasCapability type .text <;> rfl

/-- Resolving the policy keeps what was found out about the model. -/
theorem CheckedIn.resolvePolicy {a : Annotation} {c : Catalogue} {bound? : Option String}
    (h : a.CheckedIn c bound?) : (a.resolvePolicy c).2.CheckedIn c bound? := by
  rw [resolvePolicy_snd]
  exact ⟨.inr h.policy?_or, by simpa [fill] using h.regex, by simpa [fill] using h.element⟩

/-- A self-check writes what is wrong with the error type and, at a declared type, what the rule has
to say about it and any conflict with the element type bound before. -/
theorem CheckedIn.selfCheck_messages {a : Annotation} {c : Catalogue} {bound? : Option String}
    (h : a.CheckedIn c bound?) (site : Site) :
    (a.selfCheck site c).1.messages =
      a.failure.messages a.rule c ++
        match site.declaredType?.bind fun type => (c.decl? type).map (Prod.mk type) with
        | none => []
        | some (type, d) =>
          a.rule.typeMessages c site type d ++ a.rule.conflictAt a.failure c bound? site := by
  have hfirst := h.resolvePolicy_messages
  have hresolved : (a.resolvePolicy c).2 = a.fill (a.failure.policyIn? c) none none :=
    resolvePolicy_snd a c
  unfold Annotation.selfCheck
  cases htype : site.declaredType? with
  | none => simp [hfirst]
  | some type =>
    cases hdecl : c.decl? type with
    | none => simp [hdecl, hfirst]
    | some d =>
      have hpolicy : (a.resolvePolicy c).2.policy? = (a.resolvePolicy c).2.failure.policyIn? c := by
        rw [hresolved]
        exact h.policy?_or
      have hmore := h.resolvePolicy.checkType_messages hpolicy htype hdecl
      simp only [hdecl, Option.bind_some, Option.map_some, Trace.messages_append, hfirst, hmore]
      rw [hresolved]
      rfl

/-- A check at a site writes the messages of the site and any conflict with the element type bound
before. -/
theorem CheckedIn.site_messages {a : Annotation} {c : Catalogue} {bound? : Option String}
    (h : a.CheckedIn c bound?) (site : Site) :
    Trace.messages (site.unknownType c ++ (a.selfCheck site c).1) =
      a.rule.siteMessages a.failure c site ++ a.rule.conflictAt a.failure c bound? site := by
  rw [Trace.messages_append, h.selfCheck_messages]
  unfold Site.unknownType AnnotationRule.siteMessages AnnotationRule.messagesAt
  cases htype : site.declaredType? with
  | none =>
    have hfree : a.rule.element? c site = none := by
      cases hrule : a.rule <;> simp [AnnotationRule.element?, htype]
    rw [AnnotationRule.conflictAt_of_unbound hfree]
    rfl
  | some type =>
    cases hdecl : c.decl? type with
    | none =>
      have hfree : a.rule.element? c site = none := by
        cases hrule : a.rule <;>
          simp [AnnotationRule.element?, htype, Catalogue.boundElement?_of_decl? hdecl]
      rw [AnnotationRule.conflictAt_of_unbound hfree]
      simp [hdecl]
      rfl
    | some d => simp [hdecl, Trace.messages]

/-- Checks along sites write the messages of every site, each with the conflicts that follow from
the sites before it. -/
theorem CheckedIn.checkAt_messages {id : Nat} {c : Catalogue} {store : Store Annotation}
    {bound? : Option String} (h : (store id).CheckedIn c bound?) (sites : List Site) :
    (Visit.checkAt id c store sites).1.messages =
      sites.zipIdx.flatMap fun (site, k) =>
        (store id).rule.siteMessages (store id).failure c site ++
          (store id).rule.conflictAt (store id).failure c
            (bound?.or ((sites.take k).findSome? ((store id).rule.element? c))) site := by
  induction sites generalizing store bound? with
  | nil => rfl
  | cons site rest ih =>
    have hkeep : ((store id).selfCheck site c).2.rule = (store id).rule ∧
        ((store id).selfCheck site c).2.failure = (store id).failure := by
      rw [selfCheck_snd]
      exact ⟨rfl, rfl⟩
    have hnext : ((store.set id ((store id).selfCheck site c).2) id).CheckedIn c
        (bound?.or ((store id).rule.element? c site)) := by
      rw [Store.set_same]
      exact h.selfCheck site
    have hrest := ih hnext
    rw [Store.set_same, hkeep.1, hkeep.2] at hrest
    change Trace.messages (site.unknownType c ++ ((store id).selfCheck site c).1 ++
      (Visit.checkAt id c (store.set id ((store id).selfCheck site c).2) rest).1) = _
    rw [Trace.messages_append, h.site_messages, hrest, List.zipIdx_cons, List.flatMap_cons]
    simp only [List.take_zero, List.findSome?_nil, Option.or_none, Nat.zero_add]
    rw [List.zipIdx_succ, List.flatMap_map]
    congr 2
    funext ⟨later, k⟩
    rw [List.take_succ_cons, List.findSome?_cons, Option.or_assoc]
    cases (store id).rule.element? c site <;> rfl

end Annotation

namespace Visit

/-- A visit writes exactly the given messages; it registers its advice if there are none of them,
and excludes its annotation otherwise. -/
structure Yields (v : Visit) (c : Catalogue) (store : Store Annotation) (expected : List Message) :
    Prop where
  messages : (v.run c store).trace.messages = expected
  plan : (v.run c store).plan = if expected = [] then v.advice.map (⟨·, v.validator⟩) else []
  registered : (v.run c store).registered = if expected = [] then 1 else 0
  excluded : (v.run c store).excluded = if expected = [] then 0 else 1

/-- What a visit writes is what the checks along its sites write. -/
theorem messages_run {V : Type} [Validator V] (v : Visit) (c : Catalogue) (store : Store V) :
    (v.run c store).trace.messages = (checkAt v.validator c store v.checked).1.messages := by
  simp [run, Trace.messages, Trace.message?]

/-- A visit yields what the checks along its sites write. -/
theorem yields_checkAt (v : Visit) (c : Catalogue) (store : Store Annotation) :
    v.Yields c store (checkAt v.validator c store v.checked).1.messages := by
  have herror := (onlyErrors_checkAt v.validator c store v.checked).hasError
  refine ⟨v.messages_run c store, ?_, ?_, ?_⟩
  all_goals
    simp only [run, herror]
    cases (checkAt v.validator c store v.checked).1.messages <;> simp

/-- A visit of a fresh annotation yields the messages along its sites. -/
theorem yields_messagesAlong {rule : AnnotationRule} {failure : FailureConfig} (v : Visit)
    (c : Catalogue) (store : Store Annotation)
    (hfresh : store v.validator = Annotation.fresh rule failure) :
    v.Yields c store (rule.messagesAlong failure c v.checked) := by
  have hchecked : (store v.validator).CheckedIn c none := by
    rw [hfresh]
    exact Annotation.checkedIn_fresh rule failure c
  have hmessages := hchecked.checkAt_messages v.checked
  simp only [hfresh, Option.none_or] at hmessages
  have hyields := v.yields_checkAt c store
  rw [hmessages] at hyields
  exact hyields

end Visit

/-- Along a single site nothing but the messages of the site is written. -/
theorem AnnotationRule.messagesAlong_singleton (rule : AnnotationRule) (failure : FailureConfig)
    (c : Catalogue) (site : Site) :
    rule.messagesAlong failure c [site] = rule.siteMessages failure c site := by
  simp [messagesAlong, conflictAt]

/-- A visit of a property checks the value of its setter. -/
theorem ScanStep.eq_of_visit_mem_ofProperty {v : Visit} {p : PropertyDecl Nat}
    (h : .visit v ∈ ScanStep.ofProperty p) :
    ∃ id, v = ⟨id, .setter p.setterRef p.name p.type, [.setter p.setterRef p.name p.type],
      [.methodBody p.setterRef (some p.setterRef.parameters)]⟩ := by
  unfold ofProperty PropertyDecl.setter? at h
  cases hwritable : p.writable with
  | true =>
    rw [hwritable] at h
    obtain ⟨id, -, hid⟩ := List.mem_map.mp h
    exact ⟨id, (ScanStep.visit.inj hid).symm⟩
  | false =>
    rw [hwritable] at h
    simp only [Bool.false_eq_true, if_false] at h
    split at h <;> simp at h

/-- A scan visits the validators of parameters, of methods as a whole and of properties. -/
theorem Declarations.visit_cases {d : Declarations} {v : Visit} (h : .visit v ∈ d.steps) :
    (∃ m ∈ d.methods, ∃ p ∈ m.numbered, v ∈ Visit.ofParameter m.reference p) ∨
      (∃ m ∈ d.methods, v ∈ Visit.ofWhole m) ∨
      ∃ p ∈ d.properties, .visit v ∈ ScanStep.ofProperty p := by
  rcases List.mem_append.mp h with hmethod | hproperty
  · obtain ⟨w, hw, hvisit⟩ := List.mem_map.mp hmethod
    obtain rfl := ScanStep.visit.inj hvisit
    obtain ⟨m, hm, hw⟩ := List.mem_flatMap.mp hw
    rcases List.mem_append.mp hw with hparameter | hwhole
    · obtain ⟨p, hp, hw⟩ := List.mem_flatMap.mp hparameter
      exact .inl ⟨m, hm, p, hp, hw⟩
    · exact .inr (.inl ⟨m, hm, hwhole⟩)
  · obtain ⟨p, hp, hv⟩ := List.mem_flatMap.mp hproperty
    exact .inr (.inr ⟨p, hp, hv⟩)

/-- The messages that admit or exclude a fresh annotation. At a parameter and at a writable property
they are those of the declared type; a method-level annotation writes those of all parameters in
order with the conflicts between their element types, or, on a method without parameters, only what
is wrong with its error type. The annotation is registered exactly when the list is empty. -/
theorem Visit.yields_of_fresh {rule : AnnotationRule} {failure : FailureConfig} (v : Visit)
    (c : Catalogue) (store : Store Annotation)
    (hfresh : store v.validator = Annotation.fresh rule failure) :
    (∀ method p, v ∈ Visit.ofParameter method p →
      v.Yields c store (rule.messagesAt failure c (Site.ofParameter method p) p.2.type)) ∧
    (∀ p : PropertyDecl Nat, .visit v ∈ ScanStep.ofProperty p →
      v.Yields c store (rule.messagesAt failure c (.setter p.setterRef p.name p.type) p.type)) ∧
    (∀ m : MethodDecl Nat, v ∈ Visit.ofWhole m → m.parameters ≠ [] →
      v.Yields c store
        (rule.messagesAlong failure c (m.numbered.map (Site.ofParameter m.reference)))) ∧
    (∀ m : MethodDecl Nat, v ∈ Visit.ofWhole m → m.parameters = [] →
      v.Yields c store (failure.messages rule c)) := by
  have hyields := v.yields_messagesAlong c store hfresh
  refine ⟨?_, ?_, ?_, ?_⟩
  · intro method p hv
    obtain ⟨id, -, rfl⟩ := List.mem_map.mp hv
    rw [AnnotationRule.messagesAlong_singleton] at hyields
    exact hyields
  · intro p hv
    obtain ⟨id, rfl⟩ := ScanStep.eq_of_visit_mem_ofProperty hv
    rw [AnnotationRule.messagesAlong_singleton] at hyields
    exact hyields
  · intro m hv hparameters
    obtain ⟨id, -, rfl⟩ := List.mem_map.mp hv
    rw [← MethodDecl.sites_of_parameters hparameters]
    exact hyields
  · intro m hv hparameters
    obtain ⟨id, -, rfl⟩ := List.mem_map.mp hv
    rw [MethodDecl.sites_of_no_parameters hparameters] at hyields ⊢
    rw [AnnotationRule.messagesAlong_singleton] at hyields
    exact hyields

/-- A method-level not-empty rule is excluded from a method that takes two types of collections. -/
theorem Visit.yields_of_fresh_settle :
    let m : MethodDecl Nat :=
      ⟨"settle", "Shop", [⟨"orders", "Orders", []⟩, ⟨"invoices", "Invoices", []⟩], [.validator 0]⟩
    let store : Store Annotation := fun _ => .fresh .notEmpty {}
    ∃ v, v ∈ Visit.ofWhole m ∧ m.parameters ≠ [] ∧
      store v.validator = Annotation.fresh .notEmpty {} ∧
      v.Yields .shop store [
        AnnotationRule.notEmpty.complaint .conflictingElementType
          "The annotation is bound to elements of type 'Order' and cannot also check 'Invoice'."
      ] := by
  intro m store
  have hmem : _ ∈ Visit.ofWhole m := List.mem_singleton_self _
  have hparameters : m.parameters ≠ [] := List.cons_ne_nil _ _
  have hyields := (Visit.yields_of_fresh _ .shop store rfl).2.2.1 m hmem hparameters
  exact ⟨_, hmem, hparameters, rfl, hyields⟩

end Contracts
