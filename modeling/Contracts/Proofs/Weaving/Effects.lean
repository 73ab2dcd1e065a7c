import Contracts.Proofs.Weaving.Distinct

/-!
# What each step of a scan does by itself

A step looks at the validator that it visits and at nothing else that a scan changes. Where no two
declarations share a validator, every step therefore does what it would do as the only one, and a
scan is the sequence of what its declarations do by themselves.
-/

namespace Contracts

attribute [ext] ScanReport

variable {V : Type} [Validator V]

/-- What a part of a scan wrote, planned and counted. -/
structure Effect where
  messages : List Message
  plan : WeavePlan
  registered : Nat
  excluded : Nat
  deriving DecidableEq

/-- What a pass did, apart from the events and the validators. -/
def Pass.effect (pass : Pass V) : Effect :=
  ⟨pass.trace.messages, pass.plan, pass.registered, pass.excluded⟩

namespace ScanStep

/-- A step with what it does to a store by itself. -/
def alone (c : Catalogue) (store : Store V) (step : ScanStep) : ScanStep × Effect :=
  (step, (step.run c store).effect)

/-- A step sees no validator but the one that it visits. -/
theorem alone_congr {step : ScanStep} (c : Catalogue) {s t : Store V}
    (h : ∀ n, step.validator? = some n → s n = t n) : step.alone c s = step.alone c t := by
  cases step with
  | skip type property validators => rfl
  | visit v =>
    obtain ⟨htrace, -⟩ := Visit.checkAt_congr (h v.validator rfl) c v.checked
    have heffect : (v.run c s).effect = (v.run c t).effect := by
      simp only [Pass.effect, v.messages_run, htrace]
      simp only [Visit.run, htrace]
    exact congrArg (Prod.mk (ScanStep.visit v)) heffect

/-- Where each validator is visited once, every step does what it does by itself. -/
theorem map_effect_passes {steps : List ScanStep} (hnodup : (steps.filterMap validator?).Nodup)
    (c : Catalogue) (store : Store V) :
    (passes c store steps).map (fun p => (p.1, p.2.effect)) = steps.map (alone c store) := by
  induction steps generalizing store with
  | nil => rfl
  | cons step rest ih =>
    have hrest : (rest.filterMap validator?).Nodup :=
      ((List.sublist_cons_self step rest).filterMap validator?).nodup hnodup
    -- The later steps visit validators that this step leaves alone.
    have hlater : rest.map (alone c (step.run c store).store) = rest.map (alone c store) := by
      refine List.map_congr_left fun later hlater => alone_congr c fun n hn => ?_
      refine run_other (fun hsame => ?_) c store
      rw [List.filterMap_cons_some hsame] at hnodup
      exact (List.nodup_cons.mp hnodup).1 (List.mem_filterMap.mpr ⟨later, hlater, hn⟩)
    have htail := (ih hrest (step.run c store).store).trans hlater
    simp only [passes, List.map_cons, htail]
    rfl

end ScanStep

namespace Declarations

/-- The steps of a scan with what each of them did. -/
def effects (d : Declarations) (store : Store V) : List (ScanStep × Effect) :=
  (d.passes store).map fun p => (p.1, p.2.effect)

/-- A scan writes, plans and counts the effects of its steps. -/
theorem scan_eq_effects (d : Declarations) (store : Store V) :
    (d.scan store).messages = (d.effects store).flatMap (·.2.messages) ∧
      (d.scan store).plan = (d.effects store).flatMap (·.2.plan) ∧
      (d.scan store).report.registered = ((d.effects store).map (·.2.registered)).sum ∧
      (d.scan store).report.excluded = ((d.effects store).map (·.2.excluded)).sum := by
  obtain ⟨hmessages, hplan, hregistered, hexcluded⟩ := d.scan_eq_passes store
  rw [hmessages, hplan, hregistered, hexcluded, effects, List.flatMap_map, List.flatMap_map,
    List.map_map, List.map_map]
  exact ⟨rfl, rfl, rfl, rfl⟩

/-- Where no validator is shared, the effects of a scan are what its steps do by themselves. -/
theorem effects_of_nodup {d : Declarations} (h : d.validators.Nodup) (store : Store V) :
    d.effects store = d.steps.map (ScanStep.alone d.catalogue store) := by
  have hnodup : (d.steps.filterMap ScanStep.validator?).Nodup := by
    rw [d.filterMap_validator?_steps]
    exact nodup_guards h
  exact ScanStep.map_effect_passes hnodup d.catalogue store

/-- A unit of a scan stems from a visit, which plans it by itself. -/
theorem exists_visit_of_nodup {d : Declarations} (h : d.validators.Nodup) {store : Store V}
    {i : Interception} (hi : i ∈ (d.scan store).plan) :
    ∃ v, .visit v ∈ d.steps ∧ i.validator = v.validator ∧
      i ∈ (v.run d.catalogue store).plan := by
  obtain ⟨-, hplan, -⟩ := d.scan_eq_effects store
  rw [hplan, effects_of_nodup h, List.flatMap_map] at hi
  obtain ⟨step, hstep, hunit⟩ := List.mem_flatMap.mp hi
  cases step with
  | skip type property validators => contradiction
  | visit v => exact ⟨v, hstep, Visit.validator_of_mem_plan hunit, hunit⟩

/-- The declarations of a module with a single method. -/
def onlyMethod (d : Declarations) (m : MethodDecl Nat) : Declarations := ⟨d.catalogue, [m], []⟩

/-- The declarations of a module with a single property. -/
def onlyProperty (d : Declarations) (p : PropertyDecl Nat) : Declarations :=
  ⟨d.catalogue, [], [p]⟩

/-- The validators of a method are some of those of its module. -/
theorem nodup_onlyMethod {d : Declarations} (h : d.validators.Nodup) {m : MethodDecl Nat}
    (hm : m ∈ d.methods) : (d.onlyMethod m).validators.Nodup := by
  have hsub : (d.methods.flatMap (·.validators)).Nodup :=
    (List.sublist_append_left _ _).nodup h
  have hown : (d.onlyMethod m).validators = m.validators := by
    simp [validators, onlyMethod]
  rw [hown]
  exact (List.nodup_flatMap.mp hsub).1 m hm

/-- The validators of a property are some of those of its module. -/
theorem nodup_onlyProperty {d : Declarations} (h : d.validators.Nodup) {p : PropertyDecl Nat}
    (hp : p ∈ d.properties) : (d.onlyProperty p).validators.Nodup := by
  have hsub : (d.properties.flatMap (·.validators)).Nodup :=
    (List.sublist_append_right _ _).nodup h
  have hown : (d.onlyProperty p).validators = p.validators := by
    simp [validators, onlyProperty]
  rw [hown]
  exact (List.nodup_flatMap.mp hsub).1 p hp

/-- The effects of a scan are those of its declarations by themselves, one after the other. -/
theorem effects_eq_blocks {d : Declarations} (h : d.validators.Nodup) (store : Store V) :
    d.effects store =
      d.methods.flatMap (fun m => (d.onlyMethod m).effects store) ++
        d.properties.flatMap (fun p => (d.onlyProperty p).effects store) := by
  have hmethods : d.methods.flatMap (fun m => (d.onlyMethod m).effects store) =
      d.methods.flatMap fun m =>
        ((Visit.ofMethod m).map .visit).map (ScanStep.alone d.catalogue store) := by
    refine List.flatMap_congr fun m hm => ?_
    rw [effects_of_nodup (nodup_onlyMethod h hm)]
    simp [steps, onlyMethod]
  have hproperties : d.properties.flatMap (fun p => (d.onlyProperty p).effects store) =
      d.properties.flatMap fun p =>
        (ScanStep.ofProperty p).map (ScanStep.alone d.catalogue store) := by
    refine List.flatMap_congr fun p hp => ?_
    rw [effects_of_nodup (nodup_onlyProperty h hp)]
    simp [steps, onlyProperty]
  rw [effects_of_nodup h, hmethods, hproperties, steps, List.map_append, List.map_flatMap,
    List.map_flatMap, List.map_flatMap]

/-- Where no validator is shared, a scan writes and plans what scans of the single declarations do,
in the order of the declarations. -/
theorem scan_eq_blocks {d : Declarations} (h : d.validators.Nodup) (store : Store V) :
    (d.scan store).messages =
        d.methods.flatMap (fun m => ((d.onlyMethod m).scan store).messages) ++
          d.properties.flatMap (fun p => ((d.onlyProperty p).scan store).messages) ∧
      (d.scan store).plan =
        d.methods.flatMap (fun m => ((d.onlyMethod m).scan store).plan) ++
          d.properties.flatMap (fun p => ((d.onlyProperty p).scan store).plan) := by
  have hread (d : Declarations) := d.scan_eq_effects store
  constructor
  · simp only [(hread _).1, effects_eq_blocks h, List.flatMap_append, List.flatMap_assoc]
  · simp only [(hread _).2.1, effects_eq_blocks h, List.flatMap_append, List.flatMap_assoc]

end Declarations

end Contracts
