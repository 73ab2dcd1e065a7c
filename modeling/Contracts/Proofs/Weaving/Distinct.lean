import Contracts.Proofs.Manifest.Numbering
import Contracts.Proofs.Weaving.Accounting
import Contracts.Proofs.Weaving.Evolution

/-!
# Declarations that share no validator

A visit looks at its own validator and changes no other one. Where no two declarations share a
validator, a scan therefore visits each of them as it finds it and leaves it as the visit does, and
what the plan holds of it is what the visit registered.
-/

namespace Contracts

variable {V : Type} [Validator V]

namespace Visit

/-- The first of the sites is checked before the others. -/
theorem checkAt_cons (id : Nat) (c : Catalogue) (store : Store V) (site : Site)
    (rest : List Site) :
    checkAt id c store (site :: rest) =
      let checked := Validator.selfCheck (store id) site c
      let later := checkAt id c (store.set id checked.2) rest
      (site.unknownType c ++ checked.1 ++ later.1, later.2) := rfl

/-- Checks along sites change no other validator. -/
theorem checkAt_other {id n : Nat} (hn : n ≠ id) (c : Catalogue) (store : Store V)
    (sites : List Site) : (checkAt id c store sites).2 n = store n := by
  induction sites generalizing store with
  | nil => rfl
  | cons site rest ih =>
    exact (ih _).trans (store.set_other _ hn)

/-- Checks along sites see no other validator. -/
theorem checkAt_congr {id : Nat} {s t : Store V} (h : s id = t id) (c : Catalogue)
    (sites : List Site) :
    (checkAt id c s sites).1 = (checkAt id c t sites).1 ∧
      (checkAt id c s sites).2 id = (checkAt id c t sites).2 id := by
  induction sites generalizing s t with
  | nil => exact ⟨rfl, h⟩
  | cons site rest ih =>
    have hnext : (s.set id (Validator.selfCheck (s id) site c).2) id =
        (t.set id (Validator.selfCheck (t id) site c).2) id := by
      rw [Store.set_same, Store.set_same, h]
    obtain ⟨htrace, hstore⟩ := ih hnext
    rw [checkAt_cons, checkAt_cons]
    refine ⟨?_, hstore⟩
    dsimp only
    rw [htrace, h]

/-- A visit sees no other validator. -/
theorem run_congr (v : Visit) (c : Catalogue) {s t : Store V} (h : s v.validator = t v.validator) :
    (v.run c s).trace = (v.run c t).trace ∧ (v.run c s).plan = (v.run c t).plan ∧
      (v.run c s).store v.validator = (v.run c t).store v.validator := by
  obtain ⟨htrace, hstore⟩ := checkAt_congr h c v.checked
  simp only [run, outcome, htrace, hstore, and_self]

/-- All units of a visit run its validator. -/
theorem validator_of_mem_plan {v : Visit} {c : Catalogue} {store : Store V} {i : Interception}
    (hi : i ∈ (v.run c store).plan) : i.validator = v.validator := by
  simp only [run] at hi
  split at hi
  · obtain ⟨joinPoint, -, rfl⟩ := List.mem_map.mp hi
    rfl
  · simp at hi

end Visit

namespace ScanStep

/-- A step changes no other validator. -/
theorem run_other {step : ScanStep} {n : Nat} (hn : step.validator? ≠ some n) (c : Catalogue)
    (store : Store V) : (step.run c store).store n = store n := by
  cases step with
  | visit v => exact Visit.checkAt_other (fun h => hn (congrArg some h.symm)) c store v.checked
  | skip type property validators => rfl

/-- Steps change no other validators. -/
theorem runAll_other {steps : List ScanStep} {n : Nat} (hn : n ∉ steps.filterMap validator?)
    (c : Catalogue) (store : Store V) : (runAll c store steps).store n = store n := by
  induction steps generalizing store with
  | nil => rfl
  | cons step rest ih =>
    have hstep : step.validator? ≠ some n := fun h =>
      hn (List.mem_filterMap.mpr ⟨step, List.mem_cons_self, h⟩)
    have hrest : n ∉ rest.filterMap validator? := fun h => by
      obtain ⟨later, hlater, hvalidator⟩ := List.mem_filterMap.mp h
      exact hn (List.mem_filterMap.mpr ⟨later, List.mem_cons_of_mem _ hlater, hvalidator⟩)
    exact (ih hrest _).trans (run_other hstep c store)

/-- All units of a step run its validator. -/
theorem validator?_of_mem_plan {step : ScanStep} {c : Catalogue} {store : Store V}
    {i : Interception} (hi : i ∈ (step.run c store).plan) : step.validator? = some i.validator := by
  cases step with
  | visit v => exact congrArg some (Visit.validator_of_mem_plan hi).symm
  | skip type property validators => simp [run] at hi

/-- Steps plan units for the validators that they visit only. -/
theorem mem_of_mem_plan {steps : List ScanStep} {c : Catalogue} {store : Store V}
    {i : Interception} (hi : i ∈ (runAll c store steps).plan) :
    i.validator ∈ steps.filterMap validator? := by
  induction steps generalizing store with
  | nil => simp [runAll] at hi
  | cons step rest ih =>
    rcases List.mem_append.mp (show i ∈ (step.run c store).plan ++
      (runAll c (step.run c store).store rest).plan from hi) with hhere | hlater
    · exact List.mem_filterMap.mpr ⟨step, List.mem_cons_self, validator?_of_mem_plan hhere⟩
    · obtain ⟨later, hmem, hvalidator⟩ := List.mem_filterMap.mp (ih hlater)
      exact List.mem_filterMap.mpr ⟨later, List.mem_cons_of_mem _ hmem, hvalidator⟩

/-- Where each validator is visited once, a visit finds its validator as the steps found it, they
leave it as the visit does, and what they plan for it is what the visit registers. -/
theorem runAll_of_nodup {steps : List ScanStep} (hnodup : (steps.filterMap validator?).Nodup)
    {v : Visit} (hv : .visit v ∈ steps) (c : Catalogue) (store : Store V) :
    (runAll c store steps).store v.validator = (v.run c store).store v.validator ∧
      (runAll c store steps).plan.filter (·.validator == v.validator) = (v.run c store).plan := by
  induction steps generalizing store with
  | nil => simp at hv
  | cons step rest ih =>
    have hplan : (runAll c store (step :: rest)).plan =
        (step.run c store).plan ++ (runAll c (step.run c store).store rest).plan := rfl
    have hstore : (runAll c store (step :: rest)).store =
        (runAll c (step.run c store).store rest).store := rfl
    rw [hplan, hstore, List.filter_append]
    rcases List.mem_cons.mp hv with rfl | hlater
    · -- The rest of the steps does not come back to this validator.
      have hrest : v.validator ∉ rest.filterMap validator? :=
        (List.nodup_cons.mp (show (v.validator :: rest.filterMap validator?).Nodup from hnodup)).1
      have hhere : (run (.visit v) c store).plan.filter (·.validator == v.validator) =
          (v.run c store).plan :=
        List.filter_eq_self.mpr fun i hi => beq_iff_eq.mpr (Visit.validator_of_mem_plan hi)
      have hnone : (runAll c (run (.visit v) c store).store rest).plan.filter
          (·.validator == v.validator) = [] :=
        List.filter_eq_nil_iff.mpr fun i hi hsame => by
          rw [← beq_iff_eq.mp hsame] at hrest
          exact hrest (mem_of_mem_plan hi)
      rw [hhere, hnone, List.append_nil]
      exact ⟨runAll_other hrest c _, rfl⟩
    · -- This step visits another validator, if any.
      have hmem : v.validator ∈ rest.filterMap validator? :=
        List.mem_filterMap.mpr ⟨_, hlater, rfl⟩
      have hother : step.validator? ≠ some v.validator := by
        intro hsame
        rw [List.filterMap_cons_some hsame] at hnodup
        exact (List.nodup_cons.mp hnodup).1 hmem
      have hnodupRest : (rest.filterMap validator?).Nodup := by
        cases hstep : step.validator? with
        | none => rwa [List.filterMap_cons_none hstep] at hnodup
        | some n =>
          rw [List.filterMap_cons_some hstep] at hnodup
          exact (List.nodup_cons.mp hnodup).2
      have hnone : (step.run c store).plan.filter (·.validator == v.validator) = [] :=
        List.filter_eq_nil_iff.mpr fun i hi hsame => by
          rw [validator?_of_mem_plan hi, beq_iff_eq.mp hsame] at hother
          exact hother rfl
      obtain ⟨hsame, hregistered⟩ := ih hnodupRest hlater (step.run c store).store
      obtain ⟨-, hplanned, hleft⟩ := v.run_congr c (run_other hother c store)
      rw [hnone, List.nil_append, hsame, hregistered]
      exact ⟨hleft, hplanned⟩

end ScanStep

namespace Declarations

/-- What a scan visits are validators of the declarations. -/
theorem nodup_guards {d : Declarations} (h : d.validators.Nodup) : d.guards.Nodup := by
  have hsub : d.guards.Sublist d.validators :=
    (List.Sublist.refl _).append (List.filter_sublist.flatMap _)
  exact hsub.nodup h

/-- A visit of a validator that no two declarations share decides about the validator. -/
theorem scan_of_nodup {d : Declarations} (h : d.validators.Nodup) {v : Visit}
    (hv : .visit v ∈ d.steps) (store : Store V) :
    (d.scan store).store v.validator = (v.run d.catalogue store).store v.validator ∧
      (d.scan store).plan.filter (·.validator == v.validator) = (v.run d.catalogue store).plan := by
  have hnodup : (d.steps.filterMap ScanStep.validator?).Nodup := by
    rw [d.filterMap_validator?_steps]
    exact nodup_guards h
  exact ScanStep.runAll_of_nodup hnodup hv d.catalogue store

end Declarations

/-- Checks along sites are a history of the checked annotation. -/
theorem Visit.checkAt_eq_after (id : Nat) (c : Catalogue) (store : Store Annotation)
    (sites : List Site) :
    (checkAt id c store sites).2 id =
      (store id).after (sites.map fun site => .selfCheck site c) := by
  induction sites generalizing store with
  | nil => rfl
  | cons site rest ih =>
    have hrest := ih (store.set id ((store id).selfCheck site c).2)
    rw [Store.set_same] at hrest
    exact hrest

end Contracts
