import Contracts.Proofs.Annotation.Transparency
import Contracts.Weaving.Scan

/-!
# Stores of annotations over time

Scans and calls use the annotations of a store and do nothing else to them: the store that they
leave holds every annotation after some history of its own. What judging works out for later is
not seen by the judgements that follow, so a unit that runs on an argument list judges every
argument by the annotation as it found it.
-/

namespace Contracts

/-- Every annotation of the second store is one of the first after some history. -/
def Store.Evolves (s t : Store Annotation) : Prop :=
  ∀ n, ∃ history, t n = (s n).after history

/-- Every annotation of the second store is one of the first after some uses of a kind. -/
def Store.EvolvesBy (kind : Annotation.Use → Prop) (s t : Store Annotation) : Prop :=
  ∀ n, ∃ history, (∀ use ∈ history, kind use) ∧ t n = (s n).after history

namespace Store

/-- A store evolves into itself. -/
theorem Evolves.refl (s : Store Annotation) : s.Evolves s := fun _ => ⟨[], rfl⟩

/-- What an annotation holds it holds after any evolution of its store. -/
theorem Evolves.extends {s t : Store Annotation} (h : s.Evolves t) (n : Nat) :
    (s n).Extends (t n) := by
  obtain ⟨history, hn⟩ := h n
  rw [hn]
  exact Annotation.extends_after (s n) history

variable {kind : Annotation.Use → Prop}

/-- Nothing need be done for a store to evolve into itself. -/
theorem EvolvesBy.refl (s : Store Annotation) : s.EvolvesBy kind s :=
  fun _ => ⟨[], by simp, rfl⟩

/-- Evolutions compose. -/
theorem EvolvesBy.trans {s t u : Store Annotation} (hst : s.EvolvesBy kind t)
    (htu : t.EvolvesBy kind u) : s.EvolvesBy kind u := by
  intro n
  obtain ⟨before, hbefore, hs⟩ := hst n
  obtain ⟨later, hlater, ht⟩ := htu n
  refine ⟨before ++ later, fun use huse => ?_, by rw [(s n).after_append, ← hs, ht]⟩
  exact (List.mem_append.mp huse).elim (hbefore use) (hlater use)

/-- An evolution by uses of a kind is an evolution. -/
theorem EvolvesBy.evolves {s t : Store Annotation} (h : s.EvolvesBy kind t) : s.Evolves t := by
  intro n
  obtain ⟨history, -, hn⟩ := h n
  exact ⟨history, hn⟩

/-- A use of one annotation is an evolution of the store. -/
theorem evolvesBy_set (s : Store Annotation) (id : Nat) {use : Annotation.Use} (h : kind use) :
    s.EvolvesBy kind (s.set id ((s id).afterUse use)) := by
  intro n
  by_cases hn : n = id
  · subst hn
    exact ⟨[use], by simpa using h, by simp⟩
  · exact ⟨[], by simp, by simp [hn]⟩

end Store

section Scans

variable {kind : Annotation.Use → Prop} {c : Catalogue}

/-- Checks along sites are uses of the checked annotation. -/
theorem Visit.evolvesBy_checkAt (hkind : ∀ site, kind (.selfCheck site c)) (id : Nat)
    (store : Store Annotation) (sites : List Site) :
    store.EvolvesBy kind (checkAt id c store sites).2 := by
  induction sites generalizing store with
  | nil => exact Store.EvolvesBy.refl store
  | cons site rest ih => exact (store.evolvesBy_set id (hkind site)).trans (ih _)

/-- A step of a scan is an evolution by checks. -/
theorem ScanStep.evolvesBy_run (hkind : ∀ site, kind (.selfCheck site c)) (step : ScanStep)
    (store : Store Annotation) : store.EvolvesBy kind (step.run c store).store := by
  cases step with
  | visit v => exact Visit.evolvesBy_checkAt hkind v.validator store v.checked
  | skip type property validators => exact Store.EvolvesBy.refl store

/-- The steps of a scan are an evolution by checks. -/
theorem ScanStep.evolvesBy_runAll (hkind : ∀ site, kind (.selfCheck site c))
    (store : Store Annotation) (steps : List ScanStep) :
    store.EvolvesBy kind (runAll c store steps).store := by
  induction steps generalizing store with
  | nil => exact Store.EvolvesBy.refl store
  | cons step rest ih => exact (evolvesBy_run hkind step store).trans (ih _)

/-- Checks along sites are an evolution. -/
theorem Visit.evolves_checkAt (id : Nat) (c : Catalogue) (store : Store Annotation)
    (sites : List Site) : store.Evolves (checkAt id c store sites).2 := by
  have hany : store.EvolvesBy (fun _ => True) (checkAt id c store sites).2 :=
    evolvesBy_checkAt (fun _ => trivial) id store sites
  exact hany.evolves

/-- The steps of a scan are an evolution. -/
theorem ScanStep.evolves_runAll (c : Catalogue) (store : Store Annotation)
    (steps : List ScanStep) : store.Evolves (runAll c store steps).store := by
  have hany : store.EvolvesBy (fun _ => True) (runAll c store steps).store :=
    evolvesBy_runAll (fun _ => trivial) store steps
  exact hany.evolves

end Scans

/-- A run on parameters validates the first argument and goes on unless that fails. -/
theorem Validator.run_cons {V : Type} [Validator V] (store : Store V) (id : Nat)
    (target : Option Value) (arguments : List Value) (p : ParameterRef)
    (rest : List ParameterRef) :
    Validator.run store id target arguments (p :: rest) =
      let judged := Validator.validate (store id) target (argument arguments p) p.name
      match judged.1 with
      | .error e => (.error e, store.set id judged.2)
      | .ok () => Validator.run (store.set id judged.2) id target arguments rest := rfl

/-- A call runs its first unit and goes on unless that fails. -/
theorem WeavePlan.checkAll_cons {V : Type} [Validator V] (store : Store V) (target : Option Value)
    (arguments : List Value) (i : Interception) (rest : WeavePlan) :
    checkAll store target arguments (i :: rest) =
      match i.check store target arguments with
      | (.error e, next) => (.error e, next)
      | (.ok (), next) => checkAll next target arguments rest := rfl

section Calls

variable {kind : Annotation.Use → Prop} {target : Option Value} {arguments : List Value}

/-- A run of an annotation on parameters is an evolution by judgements. -/
theorem Validator.evolvesBy_run
    (hkind : ∀ value parameter, kind (.validate target value parameter))
    (store : Store Annotation) (id : Nat) (parameters : List ParameterRef) :
    store.EvolvesBy kind (Validator.run store id target arguments parameters).2 := by
  induction parameters generalizing store with
  | nil => exact Store.EvolvesBy.refl store
  | cons p rest ih =>
    have hstep := store.evolvesBy_set id (hkind (argument arguments p) p.name)
    rw [Validator.run_cons]
    dsimp only
    split
    · exact hstep
    · exact hstep.trans (ih _)

/-- A call is an evolution by judgements. -/
theorem WeavePlan.evolvesBy_checkAll
    (hkind : ∀ value parameter, kind (.validate target value parameter))
    (store : Store Annotation) (plan : WeavePlan) :
    store.EvolvesBy kind (plan.checkAll store target arguments).2 := by
  induction plan generalizing store with
  | nil => exact Store.EvolvesBy.refl store
  | cons i rest ih =>
    have hstep : store.EvolvesBy kind (i.check store target arguments).2 :=
      Validator.evolvesBy_run hkind store i.validator i.joinPoint.covered
    rw [checkAll_cons]
    split
    · rename_i e next hcheck
      rwa [hcheck] at hstep
    · rename_i next hcheck
      rw [hcheck] at hstep
      exact hstep.trans (ih next)

end Calls

/-- A run on parameters judges every argument by the annotation as the run found it, and stops at
the first failure. -/
theorem Validator.run_fst (store : Store Annotation) (id : Nat) (target : Option Value)
    (arguments : List Value) (parameters : List ParameterRef) :
    (Validator.run store id target arguments parameters).1 =
      parameters.forM fun p => (store id).judge (argument arguments p) p.name := by
  induction parameters generalizing store with
  | nil => rfl
  | cons p rest ih =>
    have hrest := ih (store.set id (store id).settle)
    simp only [Store.set_same, Annotation.judge_settle] at hrest
    rw [Validator.run_cons]
    change _ = ((store id).judge (argument arguments p) p.name >>= fun _ =>
      rest.forM fun p => (store id).judge (argument arguments p) p.name)
    rw [← hrest]
    change Prod.fst (match (store id).judge (argument arguments p) p.name with
      | .error e => (.error e, store.set id (store id).settle)
      | .ok () => Validator.run (store.set id (store id).settle) id target arguments rest) = _
    cases (store id).judge (argument arguments p) p.name <;> rfl

/-- Every annotation of the second store judges as that of the first. -/
def Store.JudgesAs (s t : Store Annotation) : Prop :=
  ∀ n value parameter, (t n).judge value parameter = (s n).judge value parameter

/-- Settling an annotation of a store changes no judgement. -/
theorem Store.judgesAs_set_settle (s : Store Annotation) (id : Nat) :
    s.JudgesAs (s.set id (s id).settle) := by
  intro n value parameter
  by_cases h : n = id
  · subst h
    rw [set_same]
    exact Annotation.judge_settle (s n) value parameter
  · rw [set_other s _ h]

/-- A run on parameters changes no judgement. -/
theorem Validator.judgesAs_run (store : Store Annotation) (id : Nat) (target : Option Value)
    (arguments : List Value) (parameters : List ParameterRef) :
    store.JudgesAs (Validator.run store id target arguments parameters).2 := by
  induction parameters generalizing store with
  | nil => exact fun _ _ _ => rfl
  | cons p rest ih =>
    have hstep := store.judgesAs_set_settle id
    rw [Validator.run_cons]
    change store.JudgesAs (Prod.snd (match (store id).judge (argument arguments p) p.name with
      | .error e => (.error e, store.set id (store id).settle)
      | .ok () => Validator.run (store.set id (store id).settle) id target arguments rest))
    cases (store id).judge (argument arguments p) p.name with
    | error e => exact hstep
    | ok _ =>
      intro n value parameter
      exact (ih (store.set id (store id).settle) n value parameter).trans (hstep n value parameter)

/-- A call judges every argument by the annotations as the call found them, unit after unit, and
stops at the first failure. -/
theorem WeavePlan.checkAll_fst (store : Store Annotation) (target : Option Value)
    (arguments : List Value) (plan : WeavePlan) :
    (checkAll store target arguments plan).1 =
      plan.forM fun i => i.joinPoint.covered.forM fun p =>
        (store i.validator).judge (argument arguments p) p.name := by
  induction plan generalizing store with
  | nil => rfl
  | cons i rest ih =>
    have hfirst := Validator.run_fst store i.validator target arguments i.joinPoint.covered
    have hsame := Validator.judgesAs_run store i.validator target arguments i.joinPoint.covered
    have hrest := ih (Validator.run store i.validator target arguments i.joinPoint.covered).2
    simp only [hsame _ _ _] at hrest
    change _ = (i.joinPoint.covered.forM (fun p =>
        (store i.validator).judge (argument arguments p) p.name) >>= fun _ =>
      rest.forM fun i => i.joinPoint.covered.forM fun p =>
        (store i.validator).judge (argument arguments p) p.name)
    rw [← hfirst, ← hrest]
    rw [checkAll_cons]
    unfold Interception.check
    generalize Validator.run store i.validator target arguments i.joinPoint.covered = ran
    obtain ⟨outcome, next⟩ := ran
    cases outcome <;> rfl

/-- A sequence of checks passes exactly when every check does. -/
theorem Outcome.forM_eq_ok_iff {α : Type} (check : α → Outcome) (l : List α) :
    l.forM check = .ok () ↔ ∀ x ∈ l, check x = .ok () := by
  induction l with
  | nil => simp only [List.not_mem_nil, false_implies, implies_true, iff_true]; rfl
  | cons y rest ih =>
    have hcons : (y :: rest).forM check = (check y >>= fun _ => rest.forM check) := rfl
    rw [hcons, List.forall_mem_cons, ← ih]
    cases hy : check y with
    | error e =>
      constructor
      · intro h
        cases h
      · rintro ⟨h, -⟩
        cases h
    | ok _ => exact ⟨fun h => ⟨rfl, h⟩, fun h => h.2⟩

/-- A sequence of checks fails with an error exactly when one check does and all before it pass. -/
theorem Outcome.forM_eq_error_iff {α : Type} (check : α → Outcome) (l : List α) (e : Failure) :
    l.forM check = .error e ↔
      ∃ before x later, l = before ++ x :: later ∧ (∀ y ∈ before, check y = .ok ()) ∧
        check x = .error e := by
  induction l with
  | nil =>
    constructor
    · intro h
      cases h
    · rintro ⟨before, x, later, h, -⟩
      simp at h
  | cons y rest ih =>
    have hcons : (y :: rest).forM check = (check y >>= fun _ => rest.forM check) := rfl
    rw [hcons]
    cases hy : check y with
    | error e' =>
      constructor
      · intro h
        exact ⟨[], y, rest, rfl, by simp, hy.trans h⟩
      · rintro ⟨before, x, later, hl, hbefore, hx⟩
        cases before with
        | nil =>
          obtain ⟨rfl, -⟩ := List.cons.inj hl
          exact hy.symm.trans hx
        | cons z before =>
          obtain ⟨rfl, -⟩ := List.cons.inj hl
          simp [hbefore y (by simp)] at hy
    | ok _ =>
      change rest.forM check = .error e ↔ _
      rw [ih]
      constructor
      · rintro ⟨before, x, later, rfl, hbefore, hx⟩
        exact ⟨y :: before, x, later, rfl, by simpa [hy] using hbefore, hx⟩
      · rintro ⟨before, x, later, hl, hbefore, hx⟩
        cases before with
        | nil =>
          obtain ⟨rfl, -⟩ := List.cons.inj hl
          simp [hx] at hy
        | cons z before =>
          obtain ⟨rfl, rfl⟩ := List.cons.inj hl
          exact ⟨before, x, later, rfl, fun w hw => hbefore w (by simp [hw]), hx⟩

end Contracts
