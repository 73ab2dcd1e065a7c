import Contracts.Proofs.Weaving.Accounting
import Contracts.Proofs.Weaving.Soundness

/-!
# Text arguments

A text can be counted and searched, so for not-empty rules and patterns that a scan admitted on a
value it is never of the wrong shape, and neither is an absent value for any rule. That leaves
intervals: a self-check asks the bounds to be comparable with each other, not with the values of the
type, so an interval of numbers is admitted on texts and refuses each of them when it is judged.
-/

namespace Contracts

/-- Whether a value is a text or absent. -/
def Value.isTextual (value : Value) : Bool := value.isNull || value.text?.isSome

/-- A textual value is absent or a text. -/
theorem Value.eq_of_isTextual {value : Value} (h : value.isTextual = true) :
    value = .null ∨ ∃ s, value = .text s := by
  cases value with
  | null => exact .inl rfl
  | text s => exact .inr ⟨s, rfl⟩
  | _ => contradiction

/-- A text is comparable with texts only. -/
theorem Value.isComparableWith_text (s : String) (bound : Value) :
    (Value.text s).isComparableWith bound = bound.text?.isSome := by
  cases bound <;> rfl

/-- A textual value is a misfit only for an interval of other values than texts, and only if it is a
text. -/
theorem Annotation.misfit_iff_of_isTextual (a : Annotation) {value : Value}
    (hvalue : value.isTextual = true) (e : ConfigurationError) :
    a.Misfit value e ↔
      ∃ r, a.rule = .interval r ∧ value.isNull = false ∧ r.min.text? = none ∧
        e = .incomparableBounds "text" r.min.kind := by
  rcases Value.eq_of_isTextual hvalue with rfl | ⟨s, rfl⟩
  · constructor
    · intro hmisfit
      cases hmisfit <;> contradiction
    · rintro ⟨r, -, hnull, -⟩
      contradiction
  · constructor
    · intro hmisfit
      cases hmisfit with
      | incomparable rule present alien =>
        rw [Value.isComparableWith_text, Option.isSome_eq_false_iff, Option.isNone_iff_eq_none]
          at alien
        exact ⟨_, rule, present, alien, rfl⟩
      | uncountable rule present alien => contradiction
      | textless rule present alien => contradiction
      | foreign rule bound collection alien => contradiction
    · rintro ⟨r, hrule, hpresent, hbound, rfl⟩
      have halien : (Value.text s).isComparableWith r.min = false := by
        rw [Value.isComparableWith_text, hbound]
        rfl
      exact .incomparable hrule hpresent halien

/-- A visit of a site that has a type checks this site only. -/
theorem Declarations.checked_of_declaredType? {d : Declarations} {v : Visit}
    (hv : .visit v ∈ d.steps) (htype : v.site.declaredType?.isSome) : v.checked = [v.site] := by
  rcases visit_cases hv with ⟨m, -, p, -, hw⟩ | ⟨m, -, hwhole⟩ | ⟨p, -, hp⟩
  · obtain ⟨id, -, rfl⟩ := List.mem_map.mp hw
    rfl
  · obtain ⟨id, -, rfl⟩ := List.mem_map.mp hwhole
    contradiction
  · obtain ⟨id, rfl⟩ := ScanStep.eq_of_visit_mem_ofProperty hp
    rfl

/-- What a step did it did to the store that it found, which has only evolved since. -/
theorem ScanStep.evolves_of_mem_passes {c : Catalogue} {store : Store Annotation}
    {steps : List ScanStep} {step : ScanStep} {pass : Pass Annotation}
    (h : (step, pass) ∈ passes c store steps) :
    ∃ found, pass = step.run c found ∧ pass.store.Evolves (runAll c store steps).store := by
  induction steps generalizing store with
  | nil => simp [passes] at h
  | cons first rest ih =>
    rcases List.mem_cons.mp h with hhere | hlater
    · obtain ⟨rfl, rfl⟩ := Prod.mk.inj hhere
      exact ⟨store, rfl, evolves_runAll c _ rest⟩
    · exact ih hlater

/-- Steps leave every annotation ready that one of them admits at a site with a type. -/
theorem ScanStep.ready_of_mem_passes {c : Catalogue} {store : Store Annotation}
    {steps : List ScanStep} {v : Visit} {pass : Pass Annotation}
    (h : (.visit v, pass) ∈ passes c store steps) (hregistered : pass.registered = 1)
    {site : Site} (hsite : site ∈ v.checked) (htype : site.declaredType?.isSome) :
    ((runAll c store steps).store v.validator).Ready := by
  obtain ⟨found, rfl, hevolves⟩ := evolves_of_mem_passes h
  have hquiet : (Visit.checkAt v.validator c found v.checked).1.messages = [] := by
    have hyields : (v.run c found).registered = 1 := hregistered
    rw [(v.yields_checkAt c found).registered] at hyields
    by_contra hloud
    rw [if_neg hloud] at hyields
    contradiction
  have hready := Visit.ready_checkAt hquiet hsite htype
  exact hready.extends (hevolves.extends v.validator)

/-- On a parameter or a writable property a scan admits nothing that a text or an absent argument
could make a misconfigured rule of, with one exception: an interval whose bounds are no texts
refuses every text as incomparable with its lower bound. This holds from the scan on, however the
annotation is used later. -/
theorem Declarations.text_configuration_iff (d : Declarations) (store later : Store Annotation)
    (hlater : (d.scan store).store.Evolves later) {v : Visit} {pass : Pass Annotation}
    (hpass : (.visit v, pass) ∈ d.passes store) (hregistered : pass.registered = 1) {type : String}
    (htype : v.site.declaredType? = some type) (target : Option Value) {value : Value}
    (hvalue : value.isTextual = true) (name : String) (e : ConfigurationError) :
    (Validator.validate (later v.validator) target value name).1 = .error (.configuration e) ↔
      ∃ r, (later v.validator).rule = .interval r ∧ value.isNull = false ∧ r.min.text? = none ∧
        e = .incomparableBounds "text" r.min.kind := by
  have hstep : .visit v ∈ d.steps := by
    rw [← ScanStep.map_fst_passes d.catalogue store d.steps]
    exact List.mem_map_of_mem hpass
  have htyped : v.site.declaredType?.isSome := by rw [htype]; rfl
  have hsite : v.site ∈ v.checked := by
    rw [checked_of_declaredType? hstep htyped]
    exact List.mem_singleton_self _
  have hready : ((d.scan store).store v.validator).Ready :=
    ScanStep.ready_of_mem_passes hpass hregistered hsite htyped
  rw [← (later v.validator).misfit_iff_of_isTextual hvalue e]
  exact (hready.extends (hlater.extends v.validator)).judge_configuration_iff value name e

/-- An interval of texts on a text parameter is admitted, and a text outside it is a violation. -/
theorem Declarations.text_configuration_iff_initial :
    let m : MethodDecl Nat := ⟨"rename", "Shop", [⟨"initial", "String", [.validator 0]⟩], []⟩
    let d : Declarations :=
      ⟨Catalogue.declare ⟨.empty, []⟩ ⟨"String", .reference, [.text, .ordered]⟩, [m], []⟩
    let store : Store Annotation := fun _ =>
      .fresh (.interval ⟨.text "a", .inclusive, .text "f", .inclusive⟩) {}
    let later := (d.scan store).store
    ∃ v pass, (.visit v, pass) ∈ d.passes store ∧ pass.registered = 1 ∧
      v.site.declaredType? = some "String" ∧ later.Evolves later ∧
      (Value.text "g").isTextual = true ∧
      (Validator.validate (later v.validator) none (.text "g") "initial").1 ≠ .ok () ∧
      ∀ e, (Validator.validate (later v.validator) none (.text "g") "initial").1 ≠
        .error (.configuration e) := by
  intro m d store later
  have hpass : _ ∈ d.passes store := List.mem_singleton_self _
  refine ⟨_, _, hpass, rfl, rfl, Store.Evolves.refl later, rfl, by decide, ?_⟩
  intro e hfails
  obtain ⟨r, hrule, -, hbound, -⟩ := (d.text_configuration_iff store later
    (Store.Evolves.refl later) hpass rfl rfl none rfl "initial" e).mp hfails
  cases hrule
  contradiction

/-- An interval of numbers is admitted on a text parameter, and answers a text with a configuration
error. -/
theorem Declarations.text_misconfigured_label :
    let m : MethodDecl Nat := ⟨"rename", "Shop", [⟨"label", "String", [.validator 0]⟩], []⟩
    let d : Declarations :=
      ⟨Catalogue.declare ⟨.empty, []⟩ ⟨"String", .reference, [.text, .ordered]⟩, [m], []⟩
    let store : Store Annotation := fun _ =>
      .fresh (.interval ⟨.int 1, .inclusive, .int 5, .inclusive⟩) {}
    ∃ v pass, (.visit v, pass) ∈ d.passes store ∧ pass.registered = 1 ∧
      v.site.declaredType? = some "String" ∧ d.catalogue.hasCapability "String" .text = true ∧
      (Validator.validate ((d.scan store).store v.validator) none (.text "new") "label").1 =
        .error (.configuration (.incomparableBounds "text" "int")) := by
  intro m d store
  have hpass : _ ∈ d.passes store := List.mem_singleton_self _
  exact ⟨_, _, hpass, rfl, rfl, rfl, rfl⟩

end Contracts
