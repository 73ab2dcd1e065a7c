import Contracts.Proofs.Weaving.Effects
import Contracts.Proofs.Weaving.Evolution

/-!
# Annotations do not influence one another

An edit puts other attributes on one parameter, one method or one property of a module. The scan of
the edited module takes the same steps before and after the steps of this place, and the steps of
the place visit its annotations in the same way whatever the others are. Where no instance is
shared, every annotation that the edit leaves in the module therefore gets the same messages, the
same decision and the same units, in the same order, and ends in the same state. Calls are refused
by the edited module if they were before and the edit removed no annotation.
-/

namespace Contracts

/-- The steps of a place as they follow from its validators: either each of them is visited, in a
way that does not depend on the others, or the place is passed over. -/
inductive ScanStep.OfPlace (place : List Nat → List ScanStep) : Prop
  | visited (visit : Nat → Visit) (hid : ∀ id, (visit id).validator = id)
    (hplace : ∀ ids, place ids = ids.map fun id => .visit (visit id))
  | passed (hsingle : ∀ ids, (place ids).length ≤ 1)
    (hskip : ∀ ids, ∀ step ∈ place ids, step.isSkip = true)

/-- A validator that stays at a place is visited in the same way. -/
theorem ScanStep.OfPlace.visit_mem {place : List Nat → List ScanStep} (h : OfPlace place)
    {old new : List Nat} {v : Visit} (hv : .visit v ∈ place old)
    (hstays : v.validator ∈ old → v.validator ∈ new) : .visit v ∈ place new := by
  cases h with
  | visited visit hid hplace =>
    rw [hplace, List.mem_map] at hv ⊢
    obtain ⟨id, hmem, hvisit⟩ := hv
    have hsame : v.validator = id := by
      rw [← ScanStep.visit.inj hvisit, hid]
    rw [hsame] at hstays
    exact ⟨id, hstays hmem, hvisit⟩
  | passed hsingle hskip =>
    have hfalse := hskip old _ hv
    contradiction

/-- Two scans do the same but for the steps of a place, which has the old validators in the first
and the new ones in the second. -/
inductive Effect.AgreeBut (old new : List Nat) :
    List (ScanStep × Effect) → List (ScanStep × Effect) → Prop
  /-- Each of the validators is visited, with an effect that does not depend on the others. -/
  | visited (before after : List (ScanStep × Effect)) (visit : Nat → ScanStep × Effect)
    (hid : ∀ id, (visit id).1.validator? = some id) :
    AgreeBut old new (before ++ old.map visit ++ after) (before ++ new.map visit ++ after)
  /-- The place is passed over, in a single step if any. -/
  | passed (before here there after : List (ScanStep × Effect)) (hhere : here.length ≤ 1)
    (hthere : there.length ≤ 1) (hskip : ∀ p ∈ here ++ there, p.1.isSkip = true) :
    AgreeBut old new (before ++ here ++ after) (before ++ there ++ after)

/-- Numbering goes on behind the first names. -/
theorem ParameterRef.number_append (start : Nat) (names more : List String) :
    number start (names ++ more) = number start names ++ number (start + names.length) more := by
  induction names generalizing start with
  | nil => rfl
  | cons name rest ih =>
    simp only [List.cons_append, number, ih, List.length_cons, ← Nat.add_assoc,
      Nat.add_right_comm]

/-- The numbered parameters before, at and after a place. -/
theorem MethodDecl.numbered_append (name type : String) (left right : List (ParameterDecl Nat))
    (p : ParameterDecl Nat) (attributes : List (Attribute Nat)) :
    numbered ⟨name, type, left ++ p :: right, attributes⟩ =
      (ParameterRef.number 0 (left.map (·.name))).zip left ++
        (⟨left.length, p.name⟩, p) ::
          (ParameterRef.number (left.length + 1) (right.map (·.name))).zip right := by
  have hlength : (ParameterRef.number 0 (left.map (·.name))).length = left.length := by
    simp [ParameterRef.length_number]
  simp only [numbered, reference, List.map_append, ParameterRef.number_append, List.map_cons,
    ParameterRef.number, List.length_map, Nat.zero_add]
  rw [List.zip_append hlength, List.zip_cons_cons]

/-- The visits of a method, as they follow from the validators on one of its parameters. -/
theorem Visit.ofMethod_parameter (name type : String) (left right : List (ParameterDecl Nat))
    (parameter parameterType : String) (attributes : List (Attribute Nat)) :
    ∃ before visit after, (∀ id, (visit id).validator = id) ∧ ∀ current,
      Visit.ofMethod ⟨name, type, left ++ ⟨parameter, parameterType, current⟩ :: right,
          attributes⟩ =
        before ++ (Attribute.validators current).map visit ++ after := by
  -- References and sites hold names and types only, so these are the same for any attributes.
  let names := left.map (·.name) ++ parameter :: right.map (·.name)
  let method : MethodRef := ⟨type, name, ParameterRef.number 0 names⟩
  let ref : ParameterRef := ⟨left.length, parameter⟩
  let site := Site.parameter method ref parameterType
  let numberedLeft := (ParameterRef.number 0 (left.map (·.name))).zip left
  let numberedRight := (ParameterRef.number (left.length + 1) (right.map (·.name))).zip right
  let sites := numberedLeft.map (Site.ofParameter method) ++
    site :: numberedRight.map (Site.ofParameter method)
  let whole := (Attribute.validators attributes).map fun id =>
    Visit.mk id (.method method) sites [.methodBody method none, .staticInitializer type]
  refine ⟨numberedLeft.flatMap (ofParameter method),
    fun id => ⟨id, site, [site], [.methodBody method (some [ref])]⟩,
    numberedRight.flatMap (ofParameter method) ++ whole, fun _ => rfl, fun current => ?_⟩
  have hreference : MethodDecl.reference ⟨name, type,
      left ++ ⟨parameter, parameterType, current⟩ :: right, attributes⟩ = method := by
    simp [MethodDecl.reference, method, names]
  have hsites : MethodDecl.sites ⟨name, type,
      left ++ ⟨parameter, parameterType, current⟩ :: right, attributes⟩ = sites := by
    rw [MethodDecl.sites_of_parameters (by simp), hreference, MethodDecl.numbered_append,
      List.map_append, List.map_cons]
    rfl
  simp only [ofMethod, ofWhole, hreference, hsites, MethodDecl.numbered_append,
    List.flatMap_append, List.flatMap_cons]
  simp [whole, numberedLeft, numberedRight, ofParameter, site, ref, Site.ofParameter]

/-- The visits of a method, as they follow from the validators on the method as a whole. -/
theorem Visit.ofMethod_whole (name type : String) (parameters : List (ParameterDecl Nat)) :
    ∃ before visit, (∀ id, (visit id).validator = id) ∧ ∀ current,
      Visit.ofMethod ⟨name, type, parameters, current⟩ =
        before ++ (Attribute.validators current).map visit := by
  let m : MethodDecl Nat := ⟨name, type, parameters, []⟩
  exact ⟨m.numbered.flatMap (ofParameter m.reference),
    fun id => ⟨id, .method m.reference, m.sites,
      [.methodBody m.reference none, .staticInitializer type]⟩, fun _ => rfl, fun _ => rfl⟩

/-- The steps of a property, as they follow from the validators on it. -/
theorem ScanStep.ofProperty_place (name type valueType : String) (writable : Bool) :
    ∃ place, OfPlace place ∧ ∀ current,
      ofProperty ⟨name, type, valueType, writable, current⟩ =
        place (Attribute.validators current) := by
  cases writable with
  | true =>
    let setter : MethodRef := ⟨type, "set_" ++ name, [.setterValue]⟩
    let site := Site.setter setter name valueType
    let visit (id : Nat) : Visit :=
      ⟨id, site, [site], [.methodBody setter (some setter.parameters)]⟩
    exact ⟨fun ids => ids.map fun id => .visit (visit id),
      .visited visit (fun _ => rfl) fun _ => rfl, fun _ => rfl⟩
  | false =>
    refine ⟨fun ids => if ids.isEmpty then [] else [.skip type name ids.length],
      .passed (fun ids => ?_) (fun ids step hstep => ?_), fun _ => rfl⟩
    · split
      · exact Nat.zero_le 1
      · exact Nat.le_refl 1
    · split at hstep
      · contradiction
      · obtain rfl := List.mem_singleton.mp hstep
        rfl

/-- Two modules differ at most in the attributes of one parameter, of one method or of one property:
those of the first are replaced by those of the second. -/
inductive Declarations.Edit (old new : List (Attribute Nat)) : Declarations → Declarations → Prop
  | parameter (catalogue : Catalogue) (before after : List (MethodDecl Nat)) (name type : String)
    (left right : List (ParameterDecl Nat)) (parameter parameterType : String)
    (attributes : List (Attribute Nat)) (properties : List (PropertyDecl Nat)) :
    Edit old new
      ⟨catalogue, before ++ ⟨name, type, left ++ ⟨parameter, parameterType, old⟩ :: right,
        attributes⟩ :: after, properties⟩
      ⟨catalogue, before ++ ⟨name, type, left ++ ⟨parameter, parameterType, new⟩ :: right,
        attributes⟩ :: after, properties⟩
  | method (catalogue : Catalogue) (before after : List (MethodDecl Nat)) (name type : String)
    (parameters : List (ParameterDecl Nat)) (properties : List (PropertyDecl Nat)) :
    Edit old new
      ⟨catalogue, before ++ ⟨name, type, parameters, old⟩ :: after, properties⟩
      ⟨catalogue, before ++ ⟨name, type, parameters, new⟩ :: after, properties⟩
  | property (catalogue : Catalogue) (methods : List (MethodDecl Nat))
    (before after : List (PropertyDecl Nat)) (name type valueType : String) (writable : Bool) :
    Edit old new
      ⟨catalogue, methods, before ++ ⟨name, type, valueType, writable, old⟩ :: after⟩
      ⟨catalogue, methods, before ++ ⟨name, type, valueType, writable, new⟩ :: after⟩

namespace Declarations

variable {old new : List (Attribute Nat)} {d edited : Declarations}

/-- An edit can be taken back. -/
theorem Edit.symm (h : Edit old new d edited) : Edit new old edited d := by
  cases h with
  | parameter => exact .parameter ..
  | method => exact .method ..
  | property => exact .property ..

/-- An edit leaves the types alone. -/
theorem Edit.catalogue (h : Edit old new d edited) : edited.catalogue = d.catalogue := by
  cases h <;> rfl

/-- Where a method has a place, the module has it too. -/
theorem steps_of_ofMethod (catalogue : Catalogue) (before after : List (MethodDecl Nat))
    (properties : List (PropertyDecl Nat)) {method : List (Attribute Nat) → MethodDecl Nat}
    {first last : List Visit} {visit : Nat → Visit} (hid : ∀ id, (visit id).validator = id)
    (hmethod : ∀ current, Visit.ofMethod (method current) =
      first ++ (Attribute.validators current).map visit ++ last) :
    ∃ earlier place later, ScanStep.OfPlace place ∧ ∀ current,
      Declarations.steps ⟨catalogue, before ++ method current :: after, properties⟩ =
        earlier ++ place (Attribute.validators current) ++ later := by
  refine ⟨(before.flatMap Visit.ofMethod).map .visit ++ first.map .visit,
    fun ids => ids.map fun id => .visit (visit id),
    last.map .visit ++ (after.flatMap Visit.ofMethod).map .visit ++
      properties.flatMap ScanStep.ofProperty,
    .visited visit hid fun _ => rfl, fun current => ?_⟩
  simp [Declarations.steps, hmethod]

/-- A scan takes the same steps before and after those of the place that was edited. -/
theorem Edit.steps (h : Edit old new d edited) :
    ∃ before place after, ScanStep.OfPlace place ∧
      d.steps = before ++ place (Attribute.validators old) ++ after ∧
      edited.steps = before ++ place (Attribute.validators new) ++ after := by
  cases h with
  | parameter catalogue before after name type left right parameter parameterType attributes
      properties =>
    obtain ⟨first, visit, last, hid, hmethod⟩ :=
      Visit.ofMethod_parameter name type left right parameter parameterType attributes
    obtain ⟨earlier, place, later, hplace, hsteps⟩ :=
      steps_of_ofMethod catalogue before after properties hid hmethod
    exact ⟨earlier, place, later, hplace, hsteps old, hsteps new⟩
  | method catalogue before after name type parameters properties =>
    obtain ⟨first, visit, hid, hmethod⟩ := Visit.ofMethod_whole name type parameters
    obtain ⟨earlier, place, later, hplace, hsteps⟩ :=
      steps_of_ofMethod catalogue before after properties hid fun current =>
        (hmethod current).trans (List.append_nil _).symm
    exact ⟨earlier, place, later, hplace, hsteps old, hsteps new⟩
  | property catalogue methods before after name type valueType writable =>
    obtain ⟨place, hplace, hproperty⟩ := ScanStep.ofProperty_place name type valueType writable
    refine ⟨(methods.flatMap Visit.ofMethod).map .visit ++ before.flatMap ScanStep.ofProperty,
      place, after.flatMap ScanStep.ofProperty, hplace, ?_, ?_⟩
    all_goals simp [Declarations.steps, hproperty]

/-- A visit that the edit does not take away is made in the edited module as well. -/
theorem Edit.visit_mem (h : Edit old new d edited) {v : Visit} (hv : .visit v ∈ d.steps)
    (hstays : v.validator ∈ Attribute.validators old → v.validator ∈ Attribute.validators new) :
    .visit v ∈ edited.steps := by
  obtain ⟨before, place, after, hplace, hsteps, hedited⟩ := h.steps
  rw [hsteps, List.mem_append, List.mem_append] at hv
  rw [hedited, List.mem_append, List.mem_append]
  rcases hv with (hbefore | hhere) | hafter
  · exact .inl (.inl hbefore)
  · exact .inl (.inr (hplace.visit_mem hhere hstays))
  · exact .inr hafter

section Scans

variable {V : Type} [Validator V]

/-- A scan changes no validator that it does not visit. -/
theorem scan_other {id : Nat} (h : ¬∃ v, .visit v ∈ d.steps ∧ v.validator = id)
    (store : Store V) : (d.scan store).store id = store id := by
  refine ScanStep.runAll_other (fun hvisited => ?_) d.catalogue store
  obtain ⟨step, hstep, hid⟩ := List.mem_filterMap.mp hvisited
  cases step with
  | skip type property validators => contradiction
  | visit v => exact h ⟨v, hstep, Option.some.inj hid⟩

/-- A validator that stays, or is not at the place of the edit, ends in the same state. -/
theorem Edit.scan_store (h : Edit old new d edited) (hd : d.validators.Nodup)
    (hedited : edited.validators.Nodup) (store : Store V) {id : Nat}
    (hid : id ∈ Attribute.validators old ↔ id ∈ Attribute.validators new) :
    (edited.scan store).store id = (d.scan store).store id := by
  by_cases hvisited : ∃ v, .visit v ∈ d.steps ∧ v.validator = id
  · obtain ⟨v, hv, rfl⟩ := hvisited
    rw [(scan_of_nodup hd hv store).1, (scan_of_nodup hedited (h.visit_mem hv hid.mp) store).1,
      h.catalogue]
  · have hunvisited : ¬∃ v, .visit v ∈ edited.steps ∧ v.validator = id := by
      rintro ⟨v, hv, rfl⟩
      exact hvisited ⟨v, h.symm.visit_mem hv hid.mpr, rfl⟩
    rw [scan_other hvisited, scan_other hunvisited]

/-- An edit changes no effect but those of the steps of its place. -/
theorem Edit.effects (h : Edit old new d edited) (hd : d.validators.Nodup)
    (hedited : edited.validators.Nodup) (store : Store V) :
    Effect.AgreeBut (Attribute.validators old) (Attribute.validators new) (d.effects store)
      (edited.effects store) := by
  obtain ⟨before, place, after, hplace, hsteps, hsteps'⟩ := h.steps
  let alone := ScanStep.alone d.catalogue store
  have hfirst : d.effects store = before.map alone ++
      (place (Attribute.validators old)).map alone ++ after.map alone := by
    rw [effects_of_nodup hd, hsteps, List.map_append, List.map_append]
  have hsecond : edited.effects store = before.map alone ++
      (place (Attribute.validators new)).map alone ++ after.map alone := by
    rw [effects_of_nodup hedited, hsteps', h.catalogue, List.map_append, List.map_append]
  rw [hfirst, hsecond]
  cases hplace with
  | visited visit hid hplace =>
    rw [hplace, hplace, List.map_map, List.map_map]
    exact .visited _ _ (alone ∘ fun id => .visit (visit id)) fun id => congrArg some (hid id)
  | passed hsingle hskip =>
    have hsteps (ids : List Nat) : ∀ p ∈ (place ids).map alone, p.1.isSkip = true := by
      intro p hp
      obtain ⟨step, hstep, rfl⟩ := List.mem_map.mp hp
      exact hskip ids step hstep
    refine .passed _ _ _ _ ?_ ?_ fun p hp => (List.mem_append.mp hp).elim (hsteps _ p) (hsteps _ p)
    all_goals
      rw [List.length_map]
      exact hsingle _

end Scans

/-- A call that is accepted by an edited module is accepted without the edit, if the edit removes no
annotation. -/
theorem Edit.accepted (h : Edit old new d edited) (hd : d.validators.Nodup)
    (hedited : edited.validators.Nodup)
    (hadds : ∀ id ∈ Attribute.validators old, id ∈ Attribute.validators new)
    {store later later' : Store Annotation} (hlater : (d.scan store).store.JudgesAs later)
    (hlater' : (edited.scan store).store.JudgesAs later') {type name : String}
    {target : Option Value} {arguments : List Value}
    (haccepted :
      ((edited.scan store).plan.checkCall later' type name target arguments).1 = .ok ()) :
    ((d.scan store).plan.checkCall later type name target arguments).1 = .ok () := by
  rw [WeavePlan.checkCall, WeavePlan.checkAll_fst, Outcome.forM_eq_ok_iff] at haccepted ⊢
  intro i hi
  obtain ⟨hplanned, hbody⟩ := List.mem_filter.mp hi
  -- The visit that planned the unit is made in the edited module too, and plans it there.
  obtain ⟨v, hv, hid, hunit⟩ := exists_visit_of_nodup hd hplanned
  have hv' : .visit v ∈ edited.steps := h.visit_mem hv (hadds v.validator)
  obtain ⟨hstate, -⟩ := scan_of_nodup hd hv store
  obtain ⟨hstate', hplan'⟩ := scan_of_nodup hedited hv' store
  rw [h.catalogue] at hstate' hplan'
  have hplanned' : i ∈ (edited.scan store).plan := by
    rw [← hplan'] at hunit
    exact (List.mem_filter.mp hunit).1
  have hchecked := haccepted i (List.mem_filter.mpr ⟨hplanned', hbody⟩)
  rw [Outcome.forM_eq_ok_iff] at hchecked ⊢
  intro p hp
  calc (later i.validator).judge (argument arguments p) p.name
      = ((d.scan store).store i.validator).judge (argument arguments p) p.name := hlater _ _ _
    _ = ((edited.scan store).store i.validator).judge (argument arguments p) p.name := by
        rw [hid, hstate, hstate']
    _ = (later' i.validator).judge (argument arguments p) p.name := (hlater' _ _ _).symm
    _ = .ok () := hchecked p hp

/-- The validators of a module in another order are distinct if they were. -/
theorem nodup_of_perm (hd : d.validators.Nodup) {methods : List (MethodDecl Nat)}
    {properties : List (PropertyDecl Nat)} (hmethods : methods.Perm d.methods)
    (hproperties : properties.Perm d.properties) :
    (Declarations.mk d.catalogue methods properties).validators.Nodup := by
  have hperm : (Declarations.mk d.catalogue methods properties).validators.Perm d.validators :=
    (hmethods.flatMap_right _).append (hproperties.flatMap_right _)
  exact hperm.nodup_iff.mpr hd

/-- A module in another order is reported about in the same way. -/
theorem report_of_perm {V : Type} [Validator V] (hd : d.validators.Nodup) (store : Store V)
    {methods : List (MethodDecl Nat)} {properties : List (PropertyDecl Nat)}
    (hmethods : methods.Perm d.methods) (hproperties : properties.Perm d.properties) :
    ((Declarations.mk d.catalogue methods properties).scan store).report =
      (d.scan store).report := by
  let permuted := Declarations.mk d.catalogue methods properties
  have hsteps : permuted.steps.Perm d.steps :=
    ((hmethods.flatMap_right _).map _).append (hproperties.flatMap_right _)
  have heffects : (permuted.effects store).Perm (d.effects store) := by
    rw [effects_of_nodup (nodup_of_perm hd hmethods hproperties), effects_of_nodup hd]
    exact hsteps.map _
  obtain ⟨-, -, hregistered, hexcluded⟩ := permuted.scan_eq_effects store
  obtain ⟨-, -, hregistered', hexcluded'⟩ := d.scan_eq_effects store
  have hsum (count : Effect → Nat) : ((permuted.effects store).map fun p => count p.2).sum =
      ((d.effects store).map fun p => count p.2).sum := (heffects.map _).sum_eq
  have hmethodCount : (permuted.scan store).report.methods = (d.scan store).report.methods :=
    hmethods.length_eq
  have hpropertyCount :
      (permuted.scan store).report.properties = (d.scan store).report.properties :=
    hproperties.length_eq
  have hregisteredCount :
      (permuted.scan store).report.registered = (d.scan store).report.registered := by
    rw [hregistered, hregistered', hsum]
  have hexcludedCount :
      (permuted.scan store).report.excluded = (d.scan store).report.excluded := by
    rw [hexcluded, hexcluded', hsum]
  exact ScanReport.ext hmethodCount hpropertyCount hregisteredCount hexcludedCount

/-- The annotations of a module do not influence one another. -/
structure Independent (d : Declarations) (store : Store Annotation) : Prop where
  /-- What the scan writes and plans is what its steps do, in order. -/
  scan : (d.scan store).messages = (d.effects store).flatMap (·.2.messages) ∧
    (d.scan store).plan = (d.effects store).flatMap (·.2.plan)
  /-- Other attributes at one place change nothing about any other annotation: neither its messages
  nor the decision nor its units nor its place among the others. -/
  edits : ∀ old new edited, Edit old new d edited → edited.validators.Nodup →
    Effect.AgreeBut (Attribute.validators old) (Attribute.validators new) (d.effects store)
      (edited.effects store)
  /-- Nor do they change the state that the scan leaves it in. -/
  states : ∀ old new edited, Edit old new d edited → edited.validators.Nodup →
    ∀ id, (id ∈ Attribute.validators old ↔ id ∈ Attribute.validators new) →
      (edited.scan store).store id = (d.scan store).store id
  /-- Another order of the methods and of the properties gives what each of them gives by itself in
  that order, and the same report. -/
  permutations : ∀ methods properties, methods.Perm d.methods → properties.Perm d.properties →
    let permuted := Declarations.mk d.catalogue methods properties
    (permuted.scan store).messages =
        methods.flatMap (fun m => ((d.onlyMethod m).scan store).messages) ++
          properties.flatMap (fun p => ((d.onlyProperty p).scan store).messages) ∧
      (permuted.scan store).plan =
        methods.flatMap (fun m => ((d.onlyMethod m).scan store).plan) ++
          properties.flatMap (fun p => ((d.onlyProperty p).scan store).plan) ∧
      (permuted.scan store).report = (d.scan store).report
  /-- With more annotations at a place, a call is accepted only if it was before. -/
  additions : ∀ old new edited, Edit old new d edited → edited.validators.Nodup →
    (∀ id ∈ Attribute.validators old, id ∈ Attribute.validators new) →
    ∀ later later', (d.scan store).store.JudgesAs later →
      (edited.scan store).store.JudgesAs later' → ∀ type name target arguments,
        ((edited.scan store).plan.checkCall later' type name target arguments).1 = .ok () →
          ((d.scan store).plan.checkCall later type name target arguments).1 = .ok ()

/-- The annotations of a manifest are instances of their own, and in every module of which that
holds they do not influence one another, in whatever states they are. -/
theorem independent_of_nodup :
    (∀ m : Manifest, m.declarations.validators.Nodup) ∧
      ∀ (d : Declarations) (store : Store Annotation), d.validators.Nodup →
        d.Independent store := by
  refine ⟨Manifest.nodup_validators_declarations, fun d store hd => ?_⟩
  obtain ⟨hmessages, hplan, -⟩ := d.scan_eq_effects store
  exact {
    scan := ⟨hmessages, hplan⟩
    edits := fun old new edited h hedited => h.effects hd hedited store
    states := fun old new edited h hedited id hid => h.scan_store hd hedited store hid
    permutations := fun methods properties hmethods hproperties => by
      obtain ⟨hblocks, hunits⟩ := scan_eq_blocks (nodup_of_perm hd hmethods hproperties) store
      exact ⟨hblocks, hunits, report_of_perm hd store hmethods hproperties⟩
    additions := fun old new edited h hedited hadds later later' hlater hlater' type name target
      arguments haccepted => h.accepted hd hedited hadds hlater hlater' haccepted }

/-- A broken pattern that is added beside a not-empty rule is excluded, and orders are still asked
for. -/
theorem independent_of_nodup_orders :
    let shop (attributes : List (Attribute Nat)) : Declarations :=
      ⟨.shop, [⟨"place", "Shop", [⟨"orders", "Orders", attributes⟩], []⟩], []⟩
    let old : List (Attribute Nat) := [.validator 0]
    let new : List (Attribute Nat) := [.validator 1, .validator 0]
    let store : Store Annotation := fun n =>
      if n = 1 then .fresh (.pattern ⟨"", {}⟩) {} else .fresh .notEmpty {}
    (shop old).validators.Nodup ∧ (shop new).validators.Nodup ∧
      Edit old new (shop old) (shop new) ∧
      ((shop new).scan store).report = ⟨1, 0, 1, 1⟩ ∧
      (((shop new).scan store).plan.checkCall ((shop new).scan store).store "Shop" "place" none
        [.collection "Order" []]).1 ≠ .ok () := by
  intro shop old new store
  have hold : (shop old).validators.Nodup := by decide
  have hnew : (shop new).validators.Nodup := by decide
  have hedit : Edit old new (shop old) (shop new) :=
    .parameter .shop [] [] "place" "Shop" [] [] "orders" "Orders" [] []
  have hindependent := independent_of_nodup.2 (shop old) store hold
  have hrefused : (((shop old).scan store).plan.checkCall ((shop old).scan store).store "Shop"
      "place" none [.collection "Order" []]).1 ≠ .ok () := by decide
  refine ⟨hold, hnew, hedit, rfl, fun haccepted => hrefused ?_⟩
  exact hindependent.additions old new (shop new) hedit hnew (by decide) _ _
    (fun _ _ _ => rfl) (fun _ _ _ => rfl) "Shop" "place" none _ haccepted

end Declarations

end Contracts
