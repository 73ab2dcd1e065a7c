import Contracts.Proofs.Annotation.Readiness
import Contracts.Proofs.Weaving.Evolution

/-!
# Soundness of weaving

Every unit of a plan that covers a parameter runs an annotation that passed a self-check at a
declared type, so the annotation is ready from then on, whatever happens to it later and whoever
else carries it. A woven unit therefore never fails on account of its annotation: the configuration
errors that are left say that an argument has a shape that the rule cannot deal with.
-/

namespace Contracts

/-- A site whose check writes nothing has a declared type, if it has a type. -/
theorem Site.isKnown_of_unknownType {site : Site} {c : Catalogue}
    (htype : site.declaredType?.isSome) (h : Trace.messages (site.unknownType c) = []) :
    site.isKnown c = true := by
  obtain ⟨type, ht⟩ := Option.isSome_iff_exists.mp htype
  unfold unknownType at h
  simp only [ht] at h
  cases hd : (c.decl? type).isSome with
  | true => simp [isKnown, ht, hd]
  | false => simp [hd, Trace.messages, Trace.message?] at h

namespace Visit

/-- Checks that write nothing leave a ready annotation if a type was among what they looked at. -/
theorem ready_checkAt {id : Nat} {c : Catalogue} {store : Store Annotation} {sites : List Site}
    (hquiet : (checkAt id c store sites).1.messages = []) {site : Site} (hsite : site ∈ sites)
    (htype : site.declaredType?.isSome) : ((checkAt id c store sites).2 id).Ready := by
  induction sites generalizing store with
  | nil => simp at hsite
  | cons first rest ih =>
    have hparts : (checkAt id c store (first :: rest)).1 =
        first.unknownType c ++ ((store id).selfCheck first c).1 ++
          (checkAt id c (store.set id ((store id).selfCheck first c).2) rest).1 := rfl
    rw [hparts, Trace.messages_append, Trace.messages_append, List.append_eq_nil_iff,
      List.append_eq_nil_iff] at hquiet
    obtain ⟨⟨hunknown, hfirst⟩, hrest⟩ := hquiet
    rcases List.mem_cons.mp hsite with rfl | hlater
    · have hready := (store id).ready_of_selfCheck
        (Site.isKnown_of_unknownType htype hunknown) hfirst
      have hevolves := evolves_checkAt id c (store.set id ((store id).selfCheck site c).2) rest
      have hkept := hevolves.extends id
      rw [Store.set_same] at hkept
      exact hready.extends hkept
    · exact ih hrest hlater

end Visit

namespace ScanStep

/-- A planned unit stems from a visit whose checks wrote no error, and the store has only evolved
since. -/
theorem exists_visit_of_mem_plan {c : Catalogue} {store : Store Annotation} {steps : List ScanStep}
    {i : Interception} (hi : i ∈ (runAll c store steps).plan) :
    ∃ v s, .visit v ∈ steps ∧ i.validator = v.validator ∧ i.joinPoint ∈ v.advice ∧
      (Visit.checkAt v.validator c s v.checked).1.hasError = false ∧
      (Visit.checkAt v.validator c s v.checked).2.Evolves (runAll c store steps).store := by
  induction steps generalizing store with
  | nil => simp [runAll] at hi
  | cons step rest ih =>
    rcases List.mem_append.mp (show i ∈ (step.run c store).plan ++
      (runAll c (step.run c store).store rest).plan from hi) with hhere | hlater
    · cases step with
      | skip type property validators => simp [run] at hhere
      | visit v =>
        have hplan : (run (.visit v) c store).plan =
            if (Visit.checkAt v.validator c store v.checked).1.hasError then []
            else v.advice.map (⟨·, v.validator⟩) := by
          simp only [run, Visit.run]
          cases (Visit.checkAt v.validator c store v.checked).1.hasError <;> rfl
        rw [hplan] at hhere
        split at hhere
        · simp at hhere
        · rename_i hclean
          obtain ⟨joinPoint, hadvice, rfl⟩ := List.mem_map.mp hhere
          refine ⟨v, store, by simp, rfl, hadvice, by simpa using hclean, ?_⟩
          exact evolves_runAll c _ rest
    · obtain ⟨v, s, hv, hid, hadvice, hclean, hevolves⟩ := ih hlater
      exact ⟨v, s, by simp [hv], hid, hadvice, hclean, hevolves⟩

end ScanStep

/-- A whole-method visit whose advice covers a parameter checks the sites of the parameters. -/
theorem Visit.exists_typed_site_ofWhole {m : MethodDecl Nat} {v : Visit} (hv : v ∈ Visit.ofWhole m)
    {joinPoint : JoinPoint} (hadvice : joinPoint ∈ v.advice) (hcovered : joinPoint.covered ≠ []) :
    ∃ site ∈ v.checked, site.declaredType?.isSome := by
  obtain ⟨name, declaringType, parameters, attributes⟩ := m
  obtain ⟨id, -, rfl⟩ := List.mem_map.mp hv
  cases parameters with
  | nil =>
    simp only [List.mem_cons, List.not_mem_nil, or_false] at hadvice
    rcases hadvice with rfl | rfl
    · exact absurd rfl hcovered
    · exact absurd rfl hcovered
  | cons p rest => exact ⟨_, List.mem_cons_self, rfl⟩

/-- A visit whose advice covers a parameter checks a site that has a type. -/
theorem Declarations.exists_typed_site (d : Declarations) {v : Visit} (hv : .visit v ∈ d.steps)
    {joinPoint : JoinPoint} (hadvice : joinPoint ∈ v.advice) (hcovered : joinPoint.covered ≠ []) :
    ∃ site ∈ v.checked, site.declaredType?.isSome := by
  rcases Declarations.visit_cases hv with ⟨m, -, p, -, hw⟩ | ⟨m, -, hwhole⟩ | ⟨p, -, hp⟩
  · obtain ⟨id, -, rfl⟩ := List.mem_map.mp hw
    exact ⟨_, List.mem_singleton.mpr rfl, rfl⟩
  · exact Visit.exists_typed_site_ofWhole hwhole hadvice hcovered
  · obtain ⟨id, rfl⟩ := ScanStep.eq_of_visit_mem_ofProperty hp
    exact ⟨_, List.mem_singleton.mpr rfl, rfl⟩

/-- A planned unit that covers a parameter runs an annotation that is ready. -/
theorem Declarations.ready_of_mem_plan (d : Declarations) (store : Store Annotation)
    {i : Interception} (hi : i ∈ (d.scan store).plan) (hcovered : i.joinPoint.covered ≠ []) :
    ((d.scan store).store i.validator).Ready := by
  obtain ⟨v, s, hv, hid, hadvice, hclean, hevolves⟩ := ScanStep.exists_visit_of_mem_plan hi
  obtain ⟨site, hsite, htype⟩ := d.exists_typed_site hv hadvice hcovered
  have hquiet : (Visit.checkAt v.validator d.catalogue s v.checked).1.messages = [] := by
    rw [(Visit.onlyErrors_checkAt v.validator d.catalogue s v.checked).hasError] at hclean
    simpa using hclean
  have hready := Visit.ready_checkAt hquiet hsite htype
  rw [hid]
  exact hready.extends (hevolves.extends v.validator)

namespace Interception

/-- A unit judges the arguments that it covers in order, up to the first failure. -/
theorem check_fst (i : Interception) (store : Store Annotation) (target : Option Value)
    (arguments : List Value) :
    (i.check store target arguments).1 = i.joinPoint.covered.forM fun p =>
      (store i.validator).judge (argument arguments p) p.name :=
  Validator.run_fst store i.validator target arguments i.joinPoint.covered

/-- A unit whose annotation is ready, unless it covers nothing, fails with a configuration error
exactly when an argument that it reaches is a misfit. -/
theorem check_configuration_iff (i : Interception) (store : Store Annotation)
    (hready : i.joinPoint.covered ≠ [] → (store i.validator).Ready) (target : Option Value)
    (arguments : List Value) (e : ConfigurationError) :
    (i.check store target arguments).1 = .error (.configuration e) ↔
      ∃ before p rest, i.joinPoint.covered = before ++ p :: rest ∧
        (∀ q ∈ before, (store i.validator).judge (argument arguments q) q.name = .ok ()) ∧
        (store i.validator).Misfit (argument arguments p) e := by
  rw [i.check_fst, Outcome.forM_eq_error_iff]
  constructor
  · rintro ⟨before, p, rest, hsplit, hbefore, hp⟩
    have hreached := hready (by simp [hsplit])
    exact ⟨before, p, rest, hsplit, hbefore, (hreached.judge_configuration_iff _ _ _).mp hp⟩
  · rintro ⟨before, p, rest, hsplit, hbefore, hp⟩
    have hreached := hready (by simp [hsplit])
    exact ⟨before, p, rest, hsplit, hbefore, (hreached.judge_configuration_iff _ _ _).mpr hp⟩

end Interception

/-- A call fails exactly when one of the units woven into it does and all before it pass. -/
theorem WeavePlan.checkCall_eq_error_iff (plan : WeavePlan) (store : Store Annotation)
    (type method : String) (target : Option Value) (arguments : List Value) (e : Failure) :
    (plan.checkCall store type method target arguments).1 = .error e ↔
      ∃ before i rest, plan.ofMethod type method = before ++ i :: rest ∧
        (∀ j ∈ before, (j.check store target arguments).1 = .ok ()) ∧
        (i.check store target arguments).1 = .error e := by
  rw [checkCall, checkAll_fst, Outcome.forM_eq_error_iff]
  simp only [Interception.check_fst]

/-- Woven units are sound. In any state of the annotations, shared or not, and whatever happens to
them after the scan, a unit of the plan fails with a configuration error exactly when an argument
that it reaches is a misfit for its annotation; such an error is never a fault of the annotation
itself. The bounds of a woven interval are comparable with the same values, so that either bound
decides about a misfit. A call fails with a configuration error exactly when one of its units does
and all before it pass. -/
theorem Declarations.woven_configuration_iff (d : Declarations) (store later : Store Annotation)
    (hlater : (d.scan store).store.Evolves later) (target : Option Value) (arguments : List Value) :
    (∀ i ∈ (d.scan store).plan, ∀ e,
      ((i.check later target arguments).1 = .error (.configuration e) ↔
        ∃ before p rest, i.joinPoint.covered = before ++ p :: rest ∧
          (∀ q ∈ before, (later i.validator).judge (argument arguments q) q.name = .ok ()) ∧
          (later i.validator).Misfit (argument arguments p) e) ∧
      ((i.check later target arguments).1 = .error (.configuration e) → e.isSetup = false)) ∧
    (∀ i ∈ (d.scan store).plan, i.joinPoint.covered ≠ [] → ∀ r,
      (later i.validator).rule = .interval r →
        ∀ value : Value, value.isComparableWith r.min = value.isComparableWith r.max) ∧
    (∀ type method e,
      (((d.scan store).plan.checkCall later type method target arguments).1 =
          .error (.configuration e) ↔
        ∃ before i rest, (d.scan store).plan.ofMethod type method = before ++ i :: rest ∧
          (∀ j ∈ before, (j.check later target arguments).1 = .ok ()) ∧
          (i.check later target arguments).1 = .error (.configuration e)) ∧
      (((d.scan store).plan.checkCall later type method target arguments).1 =
          .error (.configuration e) → e.isSetup = false)) := by
  have hready : ∀ i ∈ (d.scan store).plan, i.joinPoint.covered ≠ [] →
      (later i.validator).Ready := fun i hi hcovered =>
    (d.ready_of_mem_plan store hi hcovered).extends (hlater.extends i.validator)
  have hunit : ∀ i ∈ (d.scan store).plan, ∀ e,
      (i.check later target arguments).1 = .error (.configuration e) → e.isSetup = false := by
    intro i hi e hfails
    obtain ⟨before, p, rest, -, -, hmisfit⟩ :=
      (i.check_configuration_iff later (hready i hi) target arguments e).mp hfails
    exact hmisfit.isSetup
  refine ⟨?_, ?_, ?_⟩
  · intro i hi e
    exact ⟨i.check_configuration_iff later (hready i hi) target arguments e, hunit i hi e⟩
  · intro i hi hcovered r hrule value
    exact Value.isComparableWith_congr ((hready i hi hcovered).bounds r hrule) value
  · intro type method e
    have hcall := (d.scan store).plan.checkCall_eq_error_iff later type method target arguments
      (.configuration e)
    refine ⟨hcall, ?_⟩
    intro hfails
    obtain ⟨before, i, rest, hsplit, -, hi⟩ := hcall.mp hfails
    have hmem : i ∈ (d.scan store).plan.ofMethod type method := by simp [hsplit]
    exact hunit i (List.mem_filter.mp hmem).1 e hi

/-- A not-empty rule on a parameter of orders is woven, and refuses a collection of invoices. -/
theorem Declarations.woven_configuration_iff_invoices :
    let m : MethodDecl Nat := ⟨"place", "Shop", [⟨"orders", "Orders", [.validator 0]⟩], []⟩
    let d : Declarations := ⟨.shop, [m], []⟩
    let store : Store Annotation := fun _ => .fresh .notEmpty {}
    let i : Interception := ⟨.methodBody m.reference (some [⟨0, "orders"⟩]), 0⟩
    i ∈ (d.scan store).plan ∧ (d.scan store).store.Evolves (d.scan store).store ∧
      (i.check (d.scan store).store none [.collection "Invoice" []]).1 =
        .error (.configuration (.elementTypeMismatch "Order" "Invoice")) := by
  intro m d store i
  have hplan : (d.scan store).plan = [i] := rfl
  have hi : i ∈ (d.scan store).plan := by rw [hplan]; exact List.mem_singleton_self i
  have hlater := Store.Evolves.refl (d.scan store).store
  have hmisfit : ((d.scan store).store i.validator).Misfit (.collection "Invoice" [])
      (.elementTypeMismatch "Order" "Invoice") :=
    .foreign (s := ⟨"Order", .standard⟩) rfl rfl rfl (by decide)
  refine ⟨hi, hlater, ?_⟩
  exact ((d.woven_configuration_iff store _ hlater none [.collection "Invoice" []]).1 i hi _).1.mpr
    ⟨[], ⟨0, "orders"⟩, [], rfl, by simp, hmisfit⟩

end Contracts
