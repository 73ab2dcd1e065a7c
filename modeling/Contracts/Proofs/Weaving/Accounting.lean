import Contracts.Manifest.Basic
import Contracts.Proofs.Annotation.Admission
import Contracts.Proofs.Weaving.Registration
import Mathlib

/-!
# The accounts of a scan

A scan counts what it registers and what it excludes, adds to the plan and writes messages, and
the four go together whatever the validators write. The accounts are kept step by step: what one
step does to the counts, the plan and the messages follows from whether an error is among its own
messages, and the accounts of the scan are the sums over its steps.
-/

namespace Contracts

namespace Declarations

/-- The validators on parameters, methods and writable properties. -/
def guards (d : Declarations) : List Nat :=
  d.methods.flatMap (·.validators) ++ (d.properties.filter (·.writable)).flatMap (·.validators)

/-- The validators on methods as a whole. -/
def wholeGuards (d : Declarations) : List Nat :=
  d.methods.flatMap fun m => Attribute.validators m.attributes

/-- The read-only properties with validators. -/
def readOnlyGuarded (d : Declarations) : List (PropertyDecl Nat) :=
  d.properties.filter fun p => !p.writable && !p.validators.isEmpty

end Declarations

namespace ScanStep

/-- The validator that a step visits. -/
def validator? : ScanStep → Option Nat
  | .visit v => some v.validator
  | .skip _ _ _ => none

/-- Whether a step visits a validator of a method as a whole. -/
def isWhole : ScanStep → Bool
  | .visit ⟨_, .method _, _, _⟩ => true
  | _ => false

/-- The step that passes over a property. -/
def ofReadOnly (p : PropertyDecl Nat) : ScanStep :=
  .skip p.declaringType p.name p.validators.length

/-- Whether a step passes over a property. -/
def isSkip : ScanStep → Bool
  | .visit _ => false
  | .skip _ _ _ => true

variable {V : Type} [Validator V]

/-- The account of a step. A visit excludes its validator if an error is among the messages of the
visit, and registers it with all of its advice otherwise. Passing over a property writes one warning
and leaves the counts and the plan alone. -/
def Accounted (pass : Pass V) : ScanStep → Prop
  | .visit v =>
    ((∃ m ∈ pass.trace.messages, m.isError = true) ∧
      pass.registered = 0 ∧ pass.excluded = 1 ∧ pass.plan = []) ∨
    ((∀ m ∈ pass.trace.messages, m.isError = false) ∧
      pass.registered = 1 ∧ pass.excluded = 0 ∧ pass.plan = v.advice.map (⟨·, v.validator⟩))
  | .skip _ _ _ =>
    (∃ m, pass.trace.messages = [m] ∧ m.severity = .warning) ∧
      pass.registered = 0 ∧ pass.excluded = 0 ∧ pass.plan = []

/-- Every step keeps its account. -/
theorem accounted_run (step : ScanStep) (c : Catalogue) (store : Store V) :
    step.Accounted (step.run c store) := by
  cases step with
  | skip type property validators => exact ⟨⟨_, rfl, rfl⟩, rfl, rfl, rfl⟩
  | visit v =>
    simp only [Accounted, run, v.messages_run]
    cases herror : (Visit.checkAt v.validator c store v.checked).1.hasError with
    | true =>
      refine .inl ⟨List.any_eq_true.mp herror, ?_⟩
      simp [Visit.run, herror]
    | false =>
      refine .inr ⟨by simpa [Trace.hasError] using herror, ?_⟩
      simp [Visit.run, herror]

/-- The steps of a scan, each with what it did to the store that the steps before it left. -/
def passes (c : Catalogue) (store : Store V) : List ScanStep → List (ScanStep × Pass V)
  | [] => []
  | step :: rest =>
    let here := step.run c store
    (step, here) :: passes c here.store rest

/-- What was done belongs to the steps, one by one. -/
theorem map_fst_passes (c : Catalogue) (store : Store V) (steps : List ScanStep) :
    (passes c store steps).map Prod.fst = steps := by
  induction steps generalizing store with
  | nil => rfl
  | cons step rest ih => simp [passes, ih]

/-- What a step of a scan did is what it does to some store. -/
theorem exists_run_of_mem_passes {c : Catalogue} {store : Store V} {steps : List ScanStep}
    {p : ScanStep × Pass V} (hp : p ∈ passes c store steps) :
    ∃ before, p.2 = p.1.run c before := by
  induction steps generalizing store with
  | nil => simp [passes] at hp
  | cons step rest ih =>
    rcases List.mem_cons.mp hp with rfl | hlater
    · exact ⟨store, rfl⟩
    · exact ih hlater

/-- Every step of a scan keeps its account. -/
theorem accounted_of_mem_passes {c : Catalogue} {store : Store V} {steps : List ScanStep}
    {p : ScanStep × Pass V} (hp : p ∈ passes c store steps) :
    p.1.Accounted p.2 := by
  obtain ⟨before, hrun⟩ := exists_run_of_mem_passes hp
  rw [hrun]
  exact accounted_run p.1 c before

/-- All steps together do what the steps do, one after the other. -/
theorem runAll_eq_passes (c : Catalogue) (store : Store V) (steps : List ScanStep) :
    let all := runAll c store steps
    let each := passes c store steps
    all.trace = each.flatMap (·.2.trace) ∧ all.plan = each.flatMap (·.2.plan) ∧
      all.registered = (each.map (·.2.registered)).sum ∧
      all.excluded = (each.map (·.2.excluded)).sum := by
  induction steps generalizing store with
  | nil => exact ⟨rfl, rfl, rfl, rfl⟩
  | cons step rest ih =>
    obtain ⟨htrace, hplan, hregistered, hexcluded⟩ := ih (step.run c store).store
    simp [runAll, passes, htrace, hplan, hregistered, hexcluded]

end ScanStep

namespace Trace

/-- The messages of traces behind each other. -/
theorem messages_flatMap {α : Type} (items : List α) (f : α → Trace) :
    messages (items.flatMap f) = items.flatMap fun a => messages (f a) := by
  induction items with
  | nil => rfl
  | cons a rest ih => simp [ih]

end Trace

/-- The validators that steps visit, when the steps are visits. -/
theorem ScanStep.filterMap_validator?_map_visit (visits : List Visit) :
    (visits.map ScanStep.visit).filterMap ScanStep.validator? = visits.map (·.validator) := by
  rw [List.filterMap_map]
  simp [Function.comp_def, ScanStep.validator?]

namespace Visit

/-- The visits of a parameter are those of its validators. -/
theorem map_validator_ofParameter (method : MethodRef) (p : ParameterRef × ParameterDecl Nat) :
    (ofParameter method p).map (·.validator) = p.2.validators := by
  simp [ofParameter, ParameterDecl.validators, Function.comp_def]

/-- The visits of a method as a whole are those of the validators on it. -/
theorem map_validator_ofWhole (m : MethodDecl Nat) :
    (ofWhole m).map (·.validator) = Attribute.validators m.attributes := by
  simp [ofWhole, Function.comp_def]

/-- The visits of a method are those of the validators on it and on its parameters. -/
theorem map_validator_ofMethod (m : MethodDecl Nat) :
    (ofMethod m).map (·.validator) = m.validators := by
  have hparameters : m.parameters.flatMap (·.validators) =
      m.numbered.flatMap fun p => p.2.validators := by
    rw [← m.map_snd_numbered, List.flatMap_map]
  rw [ofMethod, List.map_append, List.map_flatMap, map_validator_ofWhole, MethodDecl.validators,
    hparameters]
  simp only [map_validator_ofParameter]

/-- No visit of a parameter is one of a method as a whole. -/
theorem filter_isWhole_ofParameter (method : MethodRef) (p : ParameterRef × ParameterDecl Nat) :
    ((ofParameter method p).map ScanStep.visit).filter ScanStep.isWhole = [] := by
  simp [ofParameter, ScanStep.isWhole, Site.ofParameter]

/-- All visits of a method as a whole are such. -/
theorem filter_isWhole_ofWhole (m : MethodDecl Nat) :
    ((ofWhole m).map ScanStep.visit).filter ScanStep.isWhole = (ofWhole m).map .visit := by
  simp [ofWhole, ScanStep.isWhole]

/-- The visits of a method hold those of the method as a whole. -/
theorem filter_isWhole_ofMethod (m : MethodDecl Nat) :
    ((ofMethod m).map ScanStep.visit).filter ScanStep.isWhole = (ofWhole m).map .visit := by
  rw [ofMethod, List.map_append, List.filter_append, filter_isWhole_ofWhole, List.map_flatMap,
    List.filter_flatMap]
  simp [filter_isWhole_ofParameter]

end Visit

namespace ScanStep

/-- The steps of a property visit its validators, if it is writable. -/
theorem filterMap_validator?_ofProperty (p : PropertyDecl Nat) :
    (ofProperty p).filterMap validator? = if p.writable then p.validators else [] := by
  obtain ⟨name, declaringType, type, writable, attributes⟩ := p
  cases writable with
  | true => simp [ofProperty, PropertyDecl.setter?, PropertyDecl.validators, List.filterMap_map,
      Function.comp_def, validator?]
  | false =>
    by_cases h : Attribute.validators attributes = [] <;>
      simp [ofProperty, PropertyDecl.setter?, validator?, h]

/-- No step of a property visits a method as a whole. -/
theorem filter_isWhole_ofProperty (p : PropertyDecl Nat) :
    (ofProperty p).filter isWhole = [] := by
  obtain ⟨name, declaringType, type, writable, attributes⟩ := p
  cases writable with
  | true => simp [ofProperty, PropertyDecl.setter?, isWhole]
  | false =>
    by_cases h : Attribute.validators attributes = [] <;>
      simp [ofProperty, PropertyDecl.setter?, isWhole, h]

/-- The steps of a property pass over it if it is read-only and has validators. -/
theorem filter_isSkip_ofProperty (p : PropertyDecl Nat) :
    (ofProperty p).filter isSkip =
      if !p.writable && !p.validators.isEmpty then [ofReadOnly p] else [] := by
  obtain ⟨name, declaringType, type, writable, attributes⟩ := p
  cases writable with
  | true => simp [ofProperty, PropertyDecl.setter?, isSkip]
  | false =>
    by_cases h : Attribute.validators attributes = [] <;>
      simp [ofProperty, PropertyDecl.setter?, PropertyDecl.validators, isSkip, ofReadOnly, h]

end ScanStep

namespace Declarations

/-- A scan visits each of the validators on parameters, methods and writable properties once. -/
theorem filterMap_validator?_steps (d : Declarations) :
    d.steps.filterMap ScanStep.validator? = d.guards := by
  have hmethods : (d.methods.flatMap Visit.ofMethod).map (·.validator) =
      d.methods.flatMap (·.validators) := by
    rw [List.map_flatMap]
    simp only [Visit.map_validator_ofMethod]
  have hproperties : (d.properties.flatMap ScanStep.ofProperty).filterMap ScanStep.validator? =
      (d.properties.filter (·.writable)).flatMap (·.validators) := by
    rw [List.filterMap_flatMap]
    simp only [ScanStep.filterMap_validator?_ofProperty]
    exact flatMap_ite_nil _ _ _
  rw [steps, List.filterMap_append, ScanStep.filterMap_validator?_map_visit, hmethods, hproperties,
    guards]

/-- The validators of methods as a whole are visited as such, and no others are. -/
theorem filter_isWhole_steps (d : Declarations) :
    (d.steps.filter ScanStep.isWhole).filterMap ScanStep.validator? = d.wholeGuards := by
  have hmethods : ((d.methods.flatMap Visit.ofMethod).map .visit).filter ScanStep.isWhole =
      (d.methods.flatMap Visit.ofWhole).map .visit := by
    rw [List.map_flatMap, List.filter_flatMap, List.map_flatMap]
    simp only [Visit.filter_isWhole_ofMethod]
  have hproperties : (d.properties.flatMap ScanStep.ofProperty).filter ScanStep.isWhole = [] := by
    rw [List.filter_flatMap]
    simp [ScanStep.filter_isWhole_ofProperty]
  rw [steps, List.filter_append, hmethods, hproperties, List.append_nil,
    ScanStep.filterMap_validator?_map_visit, List.map_flatMap, wholeGuards]
  simp only [Visit.map_validator_ofWhole]

/-- A scan passes over each read-only property with validators once. -/
theorem filter_isSkip_steps (d : Declarations) :
    d.steps.filter ScanStep.isSkip = d.readOnlyGuarded.map ScanStep.ofReadOnly := by
  have hmethods : ((d.methods.flatMap Visit.ofMethod).map .visit).filter ScanStep.isSkip = [] := by
    rw [List.filter_map]
    exact List.map_eq_nil_iff.mpr (List.filter_eq_nil_iff.mpr fun _ _ => Bool.false_ne_true)
  rw [steps, List.filter_append, hmethods, List.nil_append, List.filter_flatMap, readOnlyGuarded,
    List.map_eq_flatMap, ← flatMap_ite_nil]
  simp only [ScanStep.filter_isSkip_ofProperty]

/-- A visit of a method as a whole has two pieces of advice, and any other visit has one. -/
theorem length_advice (d : Declarations) {v : Visit} (hv : .visit v ∈ d.steps) :
    v.advice.length = if ScanStep.isWhole (.visit v) then 2 else 1 := by
  rcases visit_cases hv with ⟨m, -, p, -, hw⟩ | ⟨m, -, hwhole⟩ | ⟨p, -, hp⟩
  · obtain ⟨id, -, rfl⟩ := List.mem_map.mp hw
    rfl
  · obtain ⟨id, -, rfl⟩ := List.mem_map.mp hwhole
    rfl
  · obtain ⟨id, rfl⟩ := ScanStep.eq_of_visit_mem_ofProperty hp
    rfl

end Declarations

namespace ScanStep

variable {V : Type} {step : ScanStep} {pass : Pass V}

/-- A step counts one for a visit and nothing else. -/
theorem Accounted.total (h : step.Accounted pass) :
    pass.registered + pass.excluded = step.validator?.toList.length := by
  cases step with
  | visit v =>
    rcases h with ⟨-, hregistered, hexcluded, -⟩ | ⟨-, hregistered, hexcluded, -⟩
    · rw [hregistered, hexcluded]
      rfl
    · rw [hregistered, hexcluded]
      rfl
  | skip type property validators =>
    obtain ⟨-, hregistered, hexcluded, -⟩ := h
    rw [hregistered, hexcluded]
    rfl

/-- A step excludes at most as many validators as it writes errors, and none only if it writes
none. -/
theorem Accounted.excluded (h : step.Accounted pass) :
    pass.excluded ≤ Message.count pass.trace.messages .error ∧
      (pass.excluded = 0 → Message.count pass.trace.messages .error = 0) := by
  cases step with
  | visit v =>
    rcases h with ⟨⟨m, hm, herror⟩, -, hexcluded, -⟩ | ⟨hclean, -, hexcluded, -⟩
    · have hpositive : 0 < Message.count pass.trace.messages .error :=
        List.countP_pos_iff.mpr ⟨m, hm, herror⟩
      exact ⟨by omega, by omega⟩
    · have hzero : Message.count pass.trace.messages .error = 0 :=
        List.countP_eq_zero.mpr fun m hm => Bool.eq_false_iff.mp (hclean m hm)
      exact ⟨by omega, fun _ => hzero⟩
  | skip type property validators =>
    obtain ⟨⟨m, hm, hwarning⟩, -, hexcluded, -⟩ := h
    have hzero : Message.count pass.trace.messages .error = 0 := by
      simp [hm, Message.count, hwarning]
    exact ⟨by omega, fun _ => hzero⟩

/-- A step plans one unit for a registered validator, and one more if the validator is on a method
as a whole. -/
theorem Accounted.plan (h : step.Accounted pass)
    (hadvice : ∀ v, step = .visit v → v.advice.length = if step.isWhole then 2 else 1) :
    pass.plan.length = pass.registered + if step.isWhole then pass.registered else 0 := by
  cases step with
  | visit v =>
    rcases h with ⟨-, hregistered, -, hplan⟩ | ⟨-, hregistered, -, hplan⟩
    · simp [hplan, hregistered]
    · rw [hplan, List.length_map, hadvice v rfl, hregistered]
      split
      · rfl
      · rfl
  | skip type property validators =>
    obtain ⟨-, hregistered, -, hplan⟩ := h
    simp [hplan, hregistered, isWhole]

variable {each : List (ScanStep × Pass V)}

/-- Steps count their visits. -/
theorem total_of_accounted (h : ∀ p ∈ each, p.1.Accounted p.2) :
    (each.map (·.2.registered)).sum + (each.map (·.2.excluded)).sum =
      (each.filterMap (·.1.validator?)).length := by
  induction each with
  | nil => rfl
  | cons p rest ih =>
    have hfirst := (h p List.mem_cons_self).total
    have hrest := ih fun q hq => h q (List.mem_cons_of_mem _ hq)
    have hsplit : ((p :: rest).filterMap (·.1.validator?)).length =
        p.1.validator?.toList.length + (rest.filterMap (·.1.validator?)).length := by
      cases hp : p.1.validator? <;> simp [hp, Nat.add_comm]
    rw [hsplit, List.map_cons, List.map_cons, List.sum_cons, List.sum_cons]
    omega

/-- Steps exclude at most as many validators as they write errors, and none only if they write
none. -/
theorem excluded_of_accounted (h : ∀ p ∈ each, p.1.Accounted p.2) :
    let errors := Message.count (each.flatMap (·.2.trace.messages)) .error
    (each.map (·.2.excluded)).sum ≤ errors ∧
      ((each.map (·.2.excluded)).sum = 0 → errors = 0) := by
  induction each with
  | nil => exact ⟨Nat.le_refl _, fun _ => rfl⟩
  | cons p rest ih =>
    obtain ⟨hfirst, hclean⟩ := (h p List.mem_cons_self).excluded
    obtain ⟨hrest, hrestClean⟩ := ih fun q hq => h q (List.mem_cons_of_mem _ hq)
    have hsplit : Message.count ((p :: rest).flatMap (·.2.trace.messages)) .error =
        Message.count p.2.trace.messages .error +
          Message.count (rest.flatMap (·.2.trace.messages)) .error := by
      rw [List.flatMap_cons]
      exact List.countP_append
    dsimp only
    rw [hsplit, List.map_cons, List.sum_cons]
    exact ⟨by omega, fun hnone => by
      rw [hclean (by omega), hrestClean (by omega)]⟩

/-- Steps plan one unit for each registered validator, and one more for each of those on a method as
a whole. -/
theorem plan_of_accounted (h : ∀ p ∈ each, p.1.Accounted p.2)
    (hadvice : ∀ p ∈ each, ∀ v, p.1 = .visit v →
      v.advice.length = if p.1.isWhole then 2 else 1) :
    (each.flatMap (·.2.plan)).length =
      (each.map (·.2.registered)).sum +
        ((each.filter (·.1.isWhole)).map (·.2.registered)).sum := by
  induction each with
  | nil => rfl
  | cons p rest ih =>
    have hfirst := (h p List.mem_cons_self).plan (hadvice p List.mem_cons_self)
    have hrest := ih (fun q hq => h q (List.mem_cons_of_mem _ hq))
      fun q hq => hadvice q (List.mem_cons_of_mem _ hq)
    have hsplit : (((p :: rest).filter (·.1.isWhole)).map (·.2.registered)).sum =
        (if p.1.isWhole then p.2.registered else 0) +
          ((rest.filter (·.1.isWhole)).map (·.2.registered)).sum := by
      cases hp : p.1.isWhole <;> simp [hp]
    rw [hsplit, List.flatMap_cons, List.length_append, List.map_cons, List.sum_cons]
    omega

end ScanStep

namespace Declarations

variable {V : Type} [Validator V]

/-- The steps of a scan of declarations with what each of them did. -/
def passes (d : Declarations) (store : Store V) : List (ScanStep × Pass V) :=
  ScanStep.passes d.catalogue store d.steps

/-- The accounts of a scan, item by item. -/
structure Accounts (d : Declarations) (store : Store V) : Prop where
  /-- The scan writes what its steps write, in order. -/
  messages : (d.scan store).messages = (d.passes store).flatMap (·.2.trace.messages)
  /-- Every step keeps its own account. -/
  steps : ∀ p ∈ d.passes store, p.1.Accounted p.2
  /-- The validators on parameters, methods and writable properties are visited, each once. -/
  visited : (d.passes store).filterMap (·.1.validator?) = d.guards
  /-- Those on methods as a whole are visited as such. -/
  whole : ((d.passes store).filter (·.1.isWhole)).filterMap (·.1.validator?) = d.wholeGuards
  /-- The read-only properties with validators are passed over, each once. -/
  skipped : ((d.passes store).filter (·.1.isSkip)).map (·.1) =
    d.readOnlyGuarded.map ScanStep.ofReadOnly
  /-- All methods are counted. -/
  methods : (d.scan store).report.methods = d.methods.length
  /-- All properties are counted. -/
  properties : (d.scan store).report.properties = d.properties.length
  /-- What the steps register is counted. -/
  registered : (d.scan store).report.registered = ((d.passes store).map (·.2.registered)).sum
  /-- What the steps exclude is counted. -/
  excluded : (d.scan store).report.excluded = ((d.passes store).map (·.2.excluded)).sum
  /-- Every visited validator is either registered or excluded. -/
  total : (d.scan store).report.registered + (d.scan store).report.excluded = d.guards.length
  /-- No validator is excluded without an error, and no error is written without excluding one. -/
  clean : (d.scan store).report.excluded = 0 ↔ Message.count (d.scan store).messages .error = 0
  /-- Each excluded validator has an error of its own. -/
  bounded : (d.scan store).report.excluded ≤ Message.count (d.scan store).messages .error
  /-- The plan has a unit for each registered validator, and one more for each of those on a method
  as a whole. -/
  plan : (d.scan store).plan.length = (d.scan store).report.registered +
    (((d.passes store).filter (·.1.isWhole)).map (·.2.registered)).sum

/-- What holds of the steps as they are taken holds of them in the passes of a scan. -/
theorem filterMap_passes {α : Type} (d : Declarations) (store : Store V) (f : ScanStep → Option α) :
    (d.passes store).filterMap (fun p => f p.1) = d.steps.filterMap f := by
  rw [← ScanStep.map_fst_passes d.catalogue store d.steps, List.filterMap_map]
  rfl

/-- The steps of a kind among the passes of a scan. -/
theorem map_fst_filter_passes (d : Declarations) (store : Store V) (kind : ScanStep → Bool) :
    ((d.passes store).filter fun p => kind p.1).map Prod.fst = d.steps.filter kind := by
  rw [← ScanStep.map_fst_passes d.catalogue store d.steps, List.filter_map]
  rfl

/-- A scan writes, plans and counts what its steps do. -/
theorem scan_eq_passes (d : Declarations) (store : Store V) :
    (d.scan store).messages = (d.passes store).flatMap (·.2.trace.messages) ∧
      (d.scan store).plan = (d.passes store).flatMap (·.2.plan) ∧
      (d.scan store).report.registered = ((d.passes store).map (·.2.registered)).sum ∧
      (d.scan store).report.excluded = ((d.passes store).map (·.2.excluded)).sum := by
  obtain ⟨htrace, hplan, hregistered, hexcluded⟩ :=
    ScanStep.runAll_eq_passes d.catalogue store d.steps
  refine ⟨?_, hplan, hregistered, hexcluded⟩
  change Trace.messages ((ScanStep.runAll d.catalogue store d.steps).trace ++ [.event _]) = _
  rw [Trace.messages_append, htrace, Trace.messages_flatMap]
  exact List.append_nil _

/-- The accounts of a scan are in order, whatever the validators write. -/
theorem accounts (d : Declarations) (store : Store V) : d.Accounts store := by
  obtain ⟨hmessages, hplan, hregistered, hexcluded⟩ := d.scan_eq_passes store
  have hsteps : ∀ p ∈ d.passes store, p.1.Accounted p.2 := fun p hp =>
    ScanStep.accounted_of_mem_passes hp
  have hvisited : (d.passes store).filterMap (·.1.validator?) = d.guards := by
    rw [d.filterMap_passes, d.filterMap_validator?_steps]
  have hwhole : ((d.passes store).filter (·.1.isWhole)).filterMap (·.1.validator?) =
      d.wholeGuards := by
    rw [← d.filter_isWhole_steps, ← d.map_fst_filter_passes store, List.filterMap_map]
    rfl
  have hadvice : ∀ p ∈ d.passes store, ∀ v, p.1 = .visit v →
      v.advice.length = if p.1.isWhole then 2 else 1 := by
    intro p hp v hv
    have hstep : p.1 ∈ d.steps := by
      rw [← ScanStep.map_fst_passes d.catalogue store d.steps]
      exact List.mem_map_of_mem hp
    rw [hv] at hstep ⊢
    exact d.length_advice hstep
  have htotal := ScanStep.total_of_accounted hsteps
  obtain ⟨hbounded, hclean⟩ := ScanStep.excluded_of_accounted hsteps
  rw [hvisited, ← hregistered, ← hexcluded] at htotal
  rw [← hmessages, ← hexcluded] at hbounded hclean
  exact {
    messages := hmessages
    steps := hsteps
    visited := hvisited
    whole := hwhole
    skipped := by rw [d.map_fst_filter_passes, d.filter_isSkip_steps]
    methods := rfl
    properties := rfl
    registered := hregistered
    excluded := hexcluded
    total := htotal
    clean := ⟨hclean, fun hnone => Nat.le_zero.mp (hnone ▸ hbounded)⟩
    bounded := hbounded
    plan := by rw [hplan, ScanStep.plan_of_accounted hsteps hadvice, hregistered] }

end Declarations

end Contracts
