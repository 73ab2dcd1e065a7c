import Contracts.Proofs.Manifest.Fresh
import Contracts.Proofs.Weaving.Distinct
import Contracts.Proofs.Weaving.Soundness

/-!
# One annotation for all parameters of a method

An annotation on a method as a whole is checked at every parameter and judges every argument. It is
compared with copies of it, one for each parameter, each checked at its own parameter alone. The
copies agree with it but for one thing: a parameter whose type is that of a typed collection binds
the one annotation to its element type, and the annotation then refuses collections of another
element type wherever they are given, whereas the copy of a parameter that binds nothing counts
them.
-/

namespace Contracts

/-- The element types, expected and found, of a collection that is not of the expected one. -/
def Value.stray? (expected? : Option String) : Value → Option (String × String)
  | .collection found _ =>
    expected?.bind fun expected => if found = expected then none else some (expected, found)
  | _ => none

namespace Annotation

/-- An annotation that was checked at one site of a model and not used otherwise. -/
def preparedAt (rule : AnnotationRule) (failure : FailureConfig) (c : Catalogue) (site : Site) :
    Annotation :=
  (fresh rule failure).after [.selfCheck site c]

/-- An annotation whose policy is that of a model, if it is known, can be taken for one that was
checked against this model only. -/
theorem Coherent.checkedIn {a : Annotation} (h : a.Coherent) {c : Catalogue}
    (hpolicy : a.policy? = none ∨ a.policy? = a.failure.policyIn? c) :
    a.CheckedIn c (a.specialization?.map (·.element)) where
  policy := hpolicy
  regex := by
    cases hregex : a.regex? with
    | none => exact .inl rfl
    | some regex => exact .inr (h.regex regex hregex).symm
  element := by
    cases hs : a.specialization? with
    | none => simp
    | some s =>
      have hknown := (h.check s hs).2
      rcases hpolicy with hnone | hin
      · rw [hnone] at hknown
        contradiction
      · rw [← hin, hknown]
        rfl

/-- Checks along sites of the model bind an annotation that was not bound before to the first
element type among the sites. -/
theorem CheckedIn.after {a : Annotation} {c : Catalogue} {bound? : Option String}
    (h : a.CheckedIn c bound?) (sites : List Site) :
    (a.after (sites.map fun site => .selfCheck site c)).CheckedIn c
      (bound?.or (sites.findSome? (a.rule.element? c))) := by
  induction sites generalizing a bound? with
  | nil => simpa using h
  | cons site rest ih =>
    have hrest := ih (h.selfCheck site)
    have hrule : (a.selfCheck site c).2.rule = a.rule := (extends_after a [.selfCheck site c]).rule
    rw [hrule, Option.or_assoc] at hrest
    have hfirst : (a.rule.element? c site).or (rest.findSome? (a.rule.element? c)) =
        (site :: rest).findSome? (a.rule.element? c) := by
      rw [List.findSome?_cons]
      cases a.rule.element? c site <;> rfl
    rw [← hfirst]
    exact hrest

/-- What is wrong with the error type is written at every site. -/
theorem failure_messages_of_siteMessages {rule : AnnotationRule} {failure : FailureConfig}
    {c : Catalogue} {site : Site} (h : rule.siteMessages failure c site = []) :
    failure.messages rule c = [] := by
  unfold AnnotationRule.siteMessages at h
  split at h
  · exact h
  · exact (List.append_eq_nil_iff.mp (List.append_eq_nil_iff.mp h).1).2

/-- Where checks write nothing, the first site's messages and conflicts and those of the rest are
none. -/
theorem CheckedIn.quiet_cons {id : Nat} {c : Catalogue} {store : Store Annotation}
    {bound? : Option String} (h : (store id).CheckedIn c bound?) {site : Site} {rest : List Site}
    (hquiet : (Visit.checkAt id c store (site :: rest)).1.messages = []) :
    (store id).rule.siteMessages (store id).failure c site = [] ∧
      (store id).rule.conflictAt (store id).failure c bound? site = [] ∧
      (Visit.checkAt id c (store.set id ((store id).selfCheck site c).2) rest).1.messages = [] := by
  have hfirst := h.site_messages site
  have hparts := Visit.checkAt_cons id c store site rest
  dsimp only at hparts
  rw [hparts, Trace.messages_append, List.append_eq_nil_iff] at hquiet
  obtain ⟨hnone, hrest⟩ := hquiet
  have hboth := List.append_eq_nil_iff.mp (hfirst.symm.trans hnone)
  exact ⟨hboth.1, hboth.2, hrest⟩

/-- Where checks at a site write nothing, the model resolves the policy. -/
theorem CheckedIn.policyIn?_of_quiet {id : Nat} {c : Catalogue} {store : Store Annotation}
    {bound? : Option String} (h : (store id).CheckedIn c bound?) {sites : List Site}
    (hsites : sites ≠ []) (hquiet : (Visit.checkAt id c store sites).1.messages = []) :
    ((store id).failure.policyIn? c).isSome := by
  cases sites with
  | nil => contradiction
  | cons site rest =>
    have hmessages := failure_messages_of_siteMessages (h.quiet_cons hquiet).1
    exact ((store id).failure.messages_eq_nil_iff _ c).mp hmessages

/-- Where checks write nothing, every site that binds the rule binds it to the same element type. -/
theorem CheckedIn.bound_of_quiet {id : Nat} {c : Catalogue} {store : Store Annotation}
    {bound? : Option String} (h : (store id).CheckedIn c bound?) {sites : List Site}
    (hquiet : (Visit.checkAt id c store sites).1.messages = []) {site : Site} (hsite : site ∈ sites)
    {element : String} (helement : (store id).rule.element? c site = some element) :
    bound?.or (sites.findSome? ((store id).rule.element? c)) = some element := by
  induction sites generalizing store bound? with
  | nil => simp at hsite
  | cons first rest ih =>
    obtain ⟨hmessages, hconflict, hrest⟩ := h.quiet_cons hquiet
    have hsplit : bound?.or ((first :: rest).findSome? ((store id).rule.element? c)) =
        (bound?.or ((store id).rule.element? c first)).or
          (rest.findSome? ((store id).rule.element? c)) := by
      rw [List.findSome?_cons, Option.or_assoc]
      cases (store id).rule.element? c first <;> rfl
    rw [hsplit]
    rcases List.mem_cons.mp hsite with rfl | hlater
    · have hfirst : bound?.or ((store id).rule.element? c site) = some element := by
        cases bound? with
        | none => exact helement
        | some bound =>
          by_cases hsame : bound = element
          · rw [hsame]
            rfl
          · simp [AnnotationRule.conflictAt, helement, hsame,
              failure_messages_of_siteMessages hmessages] at hconflict
      rw [hfirst]
      rfl
    · have hkeep : ((store id).selfCheck first c).2.rule = (store id).rule :=
        (extends_after (store id) [.selfCheck first c]).rule
      have hnext : ((store.set id ((store id).selfCheck first c).2) id).CheckedIn c
          (bound?.or ((store id).rule.element? c first)) := by
        rw [Store.set_same]
        exact h.selfCheck first
      have hbound := ih hnext hrest hlater (by rw [Store.set_same, hkeep]; exact helement)
      rwa [Store.set_same, hkeep] at hbound

/-- The policy of a prepared annotation is that of the model. -/
theorem preparedAt_policy? (rule : AnnotationRule) (failure : FailureConfig) (c : Catalogue)
    (site : Site) : (preparedAt rule failure c site).policy? = failure.policyIn? c := by
  change ((fresh rule failure).selfCheck site c).2.policy? = _
  rw [selfCheck_snd]
  rfl

/-- A prepared annotation is bound to the element type of its site, if that has one. -/
theorem preparedAt_specialization? (rule : AnnotationRule) (failure : FailureConfig)
    (c : Catalogue) (site : Site) :
    (preparedAt rule failure c site).specialization? =
      (rule.element? c site).bind fun element =>
        (failure.policyIn? c).map (SpecializedCheck.mk element) := by
  change ((fresh rule failure).selfCheck site c).2.specialization? = _
  rw [selfCheck_snd]
  rfl

/-- An annotation refuses the collections that stray from the element type that it is bound to. -/
theorem refused?_eq_stray? (a : Annotation) (value : Value) :
    a.refused? value = value.stray? (a.specialization?.map (·.element)) := by
  cases value with
  | collection found items =>
    unfold refused? Value.stray?
    cases a.specialization? <;> rfl
  | _ => rfl

/-- An annotation with the policy of the model, which is bound to the element type of a site if that
has one, judges as one that was checked at this site alone; but if the site binds no element type,
the annotation may be bound to one elsewhere, and refuse a collection for it. -/
theorem Coherent.judge_eq_preparedAt {a : Annotation} (h : a.Coherent) (c : Catalogue)
    (site : Site) {policy : FailurePolicy} (hin : a.failure.policyIn? c = some policy)
    (hpolicy : a.policy? = some policy) {bound? : Option String}
    (hbound? : a.specialization?.map (·.element) = bound?)
    (hbound : ∀ element, a.rule.element? c site = some element → bound? = some element)
    (value : Value) (parameter : String) :
    a.judge value parameter =
      match a.rule.element? c site, value.stray? bound? with
      | none, some (bound, found) => .error (.configuration (.elementTypeMismatch bound found))
      | _, _ => (preparedAt a.rule a.failure c site).judge value parameter := by
  have hprepared : (preparedAt a.rule a.failure c site).Coherent :=
    (coherent_fresh a.rule a.failure).after _
  have hcurrent : a.currentPolicy = .ok policy := by rw [currentPolicy, hpolicy]
  have hcurrent' : (preparedAt a.rule a.failure c site).currentPolicy = .ok policy := by
    rw [currentPolicy, preparedAt_policy?, hin]
  have hrule : (preparedAt a.rule a.failure c site).rule = a.rule :=
    (extends_after (fresh a.rule a.failure) _).rule
  have hcopy : (preparedAt a.rule a.failure c site).specialization?.map (·.element) =
      a.rule.element? c site := by
    rw [preparedAt_specialization?, hin]
    cases a.rule.element? c site <;> rfl
  rw [h.judge_eq_evaluate hcurrent, hprepared.judge_eq_evaluate hcurrent', hrule,
    refused?_eq_stray?, refused?_eq_stray?, hcopy, hbound?]
  cases helement : a.rule.element? c site with
  | none =>
    have hfree : value.stray? none = none := by cases value <;> rfl
    rw [hfree]
    cases value.stray? bound? <;> rfl
  | some element =>
    rw [hbound element helement]

/-- Checks at sites of a model that resolves the policy leave it with the annotation. -/
theorem policy?_after_checks {a : Annotation} {c : Catalogue} {policy : FailurePolicy}
    (hin : a.failure.policyIn? c = some policy)
    (hpolicy : a.policy? = none ∨ a.policy? = a.failure.policyIn? c) {sites : List Site}
    (hsites : sites ≠ []) :
    (a.after (sites.map fun site => .selfCheck site c)).policy? = some policy := by
  obtain ⟨site, rest, rfl⟩ := List.exists_cons_of_ne_nil hsites
  have hgiven : ((site :: rest).map fun site => Use.selfCheck site c).findSome?
      (Use.policy? a.failure) = some policy :=
    (List.findSome?_cons_of_isSome (by simp [Use.policy?, hin])).trans hin
  rw [after_policy?, hgiven]
  rcases hpolicy with hnone | hsome
  · rw [hnone]
    rfl
  · rw [hsome, hin]
    rfl

/-- After checks along sites that write nothing, an annotation judges as one that was checked at one
of the sites alone, up to the collections that it refuses because it is bound elsewhere. -/
theorem judge_after_quiet {id : Nat} {c : Catalogue} {store : Store Annotation}
    (hcoherent : (store id).Coherent)
    (hpolicy : (store id).policy? = none ∨ (store id).policy? = (store id).failure.policyIn? c)
    {sites : List Site} (hquiet : (Visit.checkAt id c store sites).1.messages = []) {site : Site}
    (hsite : site ∈ sites) (value : Value) (parameter : String) :
    let bound? := ((store id).specialization?.map (·.element)).or
      (sites.findSome? ((store id).rule.element? c))
    ((store id).after (sites.map fun site => .selfCheck site c)).judge value parameter =
      match (store id).rule.element? c site, value.stray? bound? with
      | none, some (bound, found) => .error (.configuration (.elementTypeMismatch bound found))
      | _, _ => (preparedAt (store id).rule (store id).failure c site).judge value parameter := by
  intro bound?
  have hchecked := hcoherent.checkedIn hpolicy
  have hsites : sites ≠ [] := List.ne_nil_of_mem hsite
  obtain ⟨policy, hin⟩ := Option.isSome_iff_exists.mp (hchecked.policyIn?_of_quiet hsites hquiet)
  have hkept := (store id).extends_after (sites.map fun site => .selfCheck site c)
  have hbound? := (hchecked.after sites).element
  rw [hkept.failure, hin, Option.bind_some] at hbound?
  have hjudged := (hcoherent.after (sites.map fun site => .selfCheck site c)).judge_eq_preparedAt
    c site (by rw [hkept.failure, hin]) (policy?_after_checks hin hpolicy hsites)
    hbound? (fun element helement => hchecked.bound_of_quiet hquiet hsite (hkept.rule ▸ helement))
    value parameter
  rwa [hkept.rule, hkept.failure] at hjudged

end Annotation

/-- A sequence of checks ends as one whose checks end alike, item by item. -/
theorem Outcome.forM_congr {α : Type} {check check' : α → Outcome} {l : List α}
    (h : ∀ x ∈ l, check x = check' x) : l.forM check = l.forM check' := by
  induction l with
  | nil => rfl
  | cons x rest ih =>
    change (check x >>= fun _ => rest.forM check) = (check' x >>= fun _ => rest.forM check')
    rw [h x List.mem_cons_self, ih fun y hy => h y (List.mem_cons_of_mem _ hy)]

/-- Calls change no judgement. -/
theorem WeavePlan.judgesAs_checkAll (store : Store Annotation) (target : Option Value)
    (arguments : List Value) (plan : WeavePlan) :
    store.JudgesAs (plan.checkAll store target arguments).2 := by
  induction plan generalizing store with
  | nil => exact fun _ _ _ => rfl
  | cons i rest ih =>
    have hstep : store.JudgesAs (i.check store target arguments).2 :=
      Validator.judgesAs_run store i.validator target arguments i.joinPoint.covered
    rw [checkAll_cons]
    split
    · rename_i e next hcheck
      rwa [hcheck] at hstep
    · rename_i next hcheck
      rw [hcheck] at hstep
      exact fun n value parameter => (ih next n value parameter).trans (hstep n value parameter)

namespace MethodDecl

/-- The references of a method's parameters are those that its parameters are numbered with. -/
theorem map_fst_numbered (m : MethodDecl Nat) : m.numbered.map Prod.fst = m.reference.parameters :=
  List.map_fst_zip (by simp [reference, ParameterRef.length_number])

/-- The visit of a validator on a method as a whole. -/
def wholeVisit (m : MethodDecl Nat) (id : Nat) : Visit :=
  ⟨id, .method m.reference, m.sites,
    [.methodBody m.reference none, .staticInitializer m.declaringType]⟩

/-- The unit of a validator on a method as a whole that runs on every call. -/
def wholeUnit (m : MethodDecl Nat) (id : Nat) : Interception := ⟨.methodBody m.reference none, id⟩

/-- A scan visits the validators on methods as a whole. -/
theorem wholeVisit_mem_steps {d : Declarations} {m : MethodDecl Nat} (hm : m ∈ d.methods)
    {id : Nat} (hid : id ∈ Attribute.validators m.attributes) :
    .visit (m.wholeVisit id) ∈ d.steps := by
  have hwhole : m.wholeVisit id ∈ Visit.ofMethod m :=
    List.mem_append_right _ (List.mem_map.mpr ⟨id, hid, rfl⟩)
  exact List.mem_append_left _
    (List.mem_map_of_mem (List.mem_flatMap.mpr ⟨m, hm, hwhole⟩))

/-- An annotation on a method as a whole that is admitted, and not shared, is left by the scan as
the checks at the method's sites leave it, and these write nothing. -/
theorem quiet_of_wholeUnit_mem_plan {d : Declarations} (hdistinct : d.validators.Nodup)
    {m : MethodDecl Nat} (hm : m ∈ d.methods) {id : Nat}
    (hid : id ∈ Attribute.validators m.attributes) {store : Store Annotation}
    (hadmitted : m.wholeUnit id ∈ (d.scan store).plan) :
    (d.scan store).store id =
        (store id).after (m.sites.map fun site => .selfCheck site d.catalogue) ∧
      (Visit.checkAt id d.catalogue store m.sites).1.messages = [] := by
  obtain ⟨hstore, hplan⟩ :=
    Declarations.scan_of_nodup hdistinct (wholeVisit_mem_steps hm hid) store
  have hregistered : m.wholeUnit id ∈ ((m.wholeVisit id).run d.catalogue store).plan := by
    rw [← hplan]
    exact List.mem_filter.mpr ⟨hadmitted, beq_self_eq_true id⟩
  refine ⟨hstore.trans (Visit.checkAt_eq_after id d.catalogue store m.sites), ?_⟩
  have hyields : ((m.wholeVisit id).run d.catalogue store).plan =
      if (Visit.checkAt id d.catalogue store m.sites).1.messages = [] then _ else [] :=
    ((m.wholeVisit id).yields_checkAt d.catalogue store).plan
  rw [hyields] at hregistered
  by_contra hloud
  rw [if_neg hloud] at hregistered
  exact List.not_mem_nil hregistered

end MethodDecl

namespace Declarations

open Annotation (fresh preparedAt coherent_fresh)

/-- The answer of a copy of a whole-call annotation to the argument of one parameter. The copy was
checked at this parameter alone. If the type of the parameter binds no element type, a collection
that strays from the one that the annotation is bound to is refused in the copy's place. -/
def copyAnswer (d : Declarations) (rule : AnnotationRule) (failure : FailureConfig)
    (bound? : Option String) (m : MethodDecl Nat) (target : Option Value) (arguments : List Value)
    (p : ParameterRef × ParameterDecl Nat) : Outcome :=
  let site := Site.ofParameter m.reference p
  let value := argument arguments p.1
  match rule.element? d.catalogue site, value.stray? bound? with
  | none, some (bound, found) => .error (.configuration (.elementTypeMismatch bound found))
  | _, _ =>
    (Validator.validate (preparedAt rule failure d.catalogue site) target value
      p.1.name).1

/-- After a scan and any calls, an admitted whole-call annotation answers as its copies do. -/
theorem check_wholeUnit_eq_copies (d : Declarations) (hdistinct : d.validators.Nodup)
    {m : MethodDecl Nat} (hm : m ∈ d.methods) (hparameters : m.parameters ≠ []) {id : Nat}
    (hid : id ∈ Attribute.validators m.attributes) {store : Store Annotation}
    {rule : AnnotationRule} {failure : FailureConfig} {history : List Annotation.Use}
    (hreached : store id = (fresh rule failure).after history)
    (hpolicy : (store id).policy? = none ∨ (store id).policy? = failure.policyIn? d.catalogue)
    (hadmitted : m.wholeUnit id ∈ (d.scan store).plan) {later : Store Annotation}
    (hlater : (d.scan store).store.JudgesAs later) (target : Option Value)
    (arguments : List Value) :
    let bound? := ((store id).specialization?.map (·.element)).or
      (m.numbered.findSome? fun p => rule.element? d.catalogue (Site.ofParameter m.reference p))
    ((m.wholeUnit id).check later target arguments).1 =
      m.numbered.forM (d.copyAnswer rule failure bound? m target arguments) := by
  intro bound?
  obtain ⟨hstore, hquiet⟩ := MethodDecl.quiet_of_wholeUnit_mem_plan hdistinct hm hid hadmitted
  have hsites := MethodDecl.sites_of_parameters hparameters
  have hcoherent : (store id).Coherent := by
    rw [hreached]
    exact (coherent_fresh rule failure).after history
  have hrule : (store id).rule = rule := by rw [hreached, Annotation.after_rule]; rfl
  have hfailure : (store id).failure = failure := by rw [hreached, Annotation.after_failure]; rfl
  have hbound? : ((store id).specialization?.map (·.element)).or
      (m.sites.findSome? ((store id).rule.element? d.catalogue)) = bound? := by
    rw [hsites, hrule, List.findSome?_map]
    rfl
  rw [Interception.check_fst]
  change m.reference.parameters.forM _ = _
  rw [← m.map_fst_numbered, List.forM_eq_forM, List.forM_map, ← List.forM_eq_forM]
  refine Outcome.forM_congr fun p hp => ?_
  have hsite : Site.ofParameter m.reference p ∈ m.sites := by
    rw [hsites]
    exact List.mem_map_of_mem hp
  have hjudged := Annotation.judge_after_quiet hcoherent (hfailure ▸ hpolicy) hquiet hsite
    (argument arguments p.1) p.1.name
  rw [hbound?, ← hstore, hrule, hfailure] at hjudged
  exact (hlater id _ _).trans hjudged

/-- In a loaded manifest the annotations are fresh and shared by no two declarations. Where a
whole-call annotation is not shared and is admitted, it works as one copy of it for each parameter,
in order and up to the first failure, except that it refuses collections that stray from the element
type that it is bound to also where they are given for parameters that bind none. This holds right
after the scan and after any calls. -/
theorem whole_call_eq_copies :
    (∀ (read : FileReader) (path : String) (manifest : Manifest),
      Manifest.load read path = .ok manifest →
        manifest.declarations.validators.Nodup ∧ ∀ id, (manifest.store id).IsFresh) ∧
    ∀ (d : Declarations) (m : MethodDecl Nat) (id : Nat) (store later : Store Annotation)
      (rule : AnnotationRule) (failure : FailureConfig) (history : List Annotation.Use),
      d.validators.Nodup →
      m ∈ d.methods →
      m.parameters ≠ [] →
      id ∈ Attribute.validators m.attributes →
      store id = (fresh rule failure).after history →
      ((store id).policy? = none ∨ (store id).policy? = failure.policyIn? d.catalogue) →
      m.wholeUnit id ∈ (d.scan store).plan →
      (d.scan store).store.JudgesAs later →
      ∀ target arguments,
        let bound? := ((store id).specialization?.map (·.element)).or
          (m.numbered.findSome? fun p =>
            rule.element? d.catalogue (Site.ofParameter m.reference p))
        ((m.wholeUnit id).check later target arguments).1 =
          m.numbered.forM (d.copyAnswer rule failure bound? m target arguments) := by
  refine ⟨?_, ?_⟩
  · intro read path manifest hload
    exact ⟨manifest.nodup_validators_declarations, Manifest.isFresh_store_of_load hload⟩
  · intro d m id store later rule failure history hdistinct hm hparameters hid hreached hpolicy
      hadmitted hlater target arguments
    exact d.check_wholeUnit_eq_copies hdistinct hm hparameters hid hreached hpolicy hadmitted hlater
      target arguments

/-- A method with a bag and orders, and a not-empty rule on it as a whole. -/
def packing : MethodDecl Nat :=
  ⟨"pack", "Shop", [⟨"bag", "Bag", []⟩, ⟨"orders", "Orders", []⟩], [.validator 0]⟩

/-- The module of the method, in which refusals are errors with the generic constructor. -/
def packingModule : Declarations :=
  ⟨(Catalogue.declare .shop ⟨"Bag", .reference, [.countable]⟩).declare
    ⟨"Refusal", .reference, [.error, .messageConstructor]⟩, [packing], []⟩

/-- The text of a manifest of a method with an annotation on it as a whole. -/
def annotatedMethodText : String :=
  "\x7b\"methods\":[\x7b\"name\":\"pack\",\"declaring_type\":\"Shop\"," ++
    "\"attributes\":[\x7b\"kind\":\"not_empty\"\x7d]\x7d]\x7d"

set_option maxRecDepth 10000 in
/-- The text is that of a method with a not-empty rule. -/
theorem ofJsonText_annotatedMethodText :
    Manifest.ofJsonText annotatedMethodText =
      .ok { methods := [⟨"pack", "Shop", [], [.validator (.fresh .notEmpty {})]⟩] } := by
  with_unfolding_all rfl

/-- The annotation of a loaded manifest is fresh. A whole-call annotation on a bag and orders counts
the bag after a call in which it has refused the bag. -/
theorem whole_call_eq_copies_bag :
    let read : FileReader := fun _ => .ok annotatedMethodText
    let loaded : Store Annotation := fun _ => .fresh .notEmpty {}
    let store := (packingModule.scan loaded).store
    let later := ((packingModule.scan loaded).plan.checkCall store "Shop" "pack" none
      [.collection "Invoice" [], .null]).2
    (∃ manifest, Manifest.load read "shop.json" = .ok manifest ∧ (manifest.store 0).IsFresh) ∧
      packing.wholeUnit 0 ∈ (packingModule.scan loaded).plan ∧ store.JudgesAs later ∧
      ((packing.wholeUnit 0).check later none [.list [.int 1], .null]).1 =
        packing.numbered.forM
          (packingModule.copyAnswer .notEmpty {} (some "Order") packing none
            [.list [.int 1], .null]) := by
  intro read loaded store later
  have hload : Manifest.load read "shop.json" =
      .ok { methods := [⟨"pack", "Shop", [], [.validator (.fresh .notEmpty {})]⟩] } := by
    change (Manifest.ofJsonText annotatedMethodText).mapError ManifestError.json = _
    rw [ofJsonText_annotatedMethodText]
    rfl
  have hplan : (packingModule.scan loaded).plan =
      [packing.wholeUnit 0, ⟨.staticInitializer "Shop", 0⟩] := rfl
  have hadmitted : packing.wholeUnit 0 ∈ (packingModule.scan loaded).plan := by
    rw [hplan]
    exact List.mem_cons_self
  have hlater : store.JudgesAs later := WeavePlan.judgesAs_checkAll store none _ _
  refine ⟨⟨_, hload, (whole_call_eq_copies.1 read "shop.json" _ hload).2 0⟩, hadmitted, hlater, ?_⟩
  exact whole_call_eq_copies.2 packingModule packing 0 loaded later .notEmpty {} [] (by decide)
    List.mem_cons_self (List.cons_ne_nil _ _) List.mem_cons_self rfl (.inl rfl) hadmitted hlater
    none [.list [.int 1], .null]

/-- A bag of invoices is refused on account of the orders beside it, whereas both copies accept it.
An annotation whose error type was resolved in another model goes on to build errors with the
constructor found there, whereas the copies build them with that of the module. -/
theorem whole_call_ne_copies_bag :
    let copies failure arguments := packing.numbered.forM fun p =>
      (Validator.validate (preparedAt .notEmpty failure packingModule.catalogue
        (Site.ofParameter packing.reference p)) none (argument arguments p.1) p.1.name).1
    let refusing : FailureConfig := { errorType := some "Refusal" }
    let elsewhere := packingModule.catalogue.register (.announcing "Refusal" "refused: ")
    let unused : Store Annotation := fun _ => .fresh .notEmpty {}
    let used : Store Annotation := fun _ =>
      preparedAt .notEmpty refusing elsewhere (.parameter packing.reference ⟨0, "bag"⟩ "Bag")
    packingModule.validators.Nodup ∧
      (packing.wholeUnit 0 ∈ (packingModule.scan unused).plan ∧
        ((packing.wholeUnit 0).check (packingModule.scan unused).store none
          [.collection "Invoice" [.int 1], .null]).1 =
            .error (.configuration (.elementTypeMismatch "Order" "Invoice")) ∧
        copies {} [.collection "Invoice" [.int 1], .null] = .ok ()) ∧
      packing.wholeUnit 0 ∈ (packingModule.scan used).plan ∧
        ((packing.wholeUnit 0).check (packingModule.scan used).store none [.list [], .null]).1 =
          .error (.custom ⟨"Refusal", .custom "refused: The parameter 'bag' is empty"⟩) ∧
        copies refusing [.list [], .null] =
          .error (.custom ⟨"Refusal", .host "Refusal" "The parameter 'bag' is empty"⟩) := by
  intro copies refusing elsewhere unused used
  have hunused : (packingModule.scan unused).plan =
      [packing.wholeUnit 0, ⟨.staticInitializer "Shop", 0⟩] := rfl
  have hused : (packingModule.scan used).plan =
      [packing.wholeUnit 0, ⟨.staticInitializer "Shop", 0⟩] := rfl
  refine ⟨by decide, ⟨?_, rfl, rfl⟩, ?_, rfl, rfl⟩
  · rw [hunused]
    exact List.mem_cons_self
  · rw [hused]
    exact List.mem_cons_self

end Declarations

end Contracts
