import Contracts.Proofs.Annotation.Repetition
import Contracts.Proofs.Weaving.Effects

/-!
# Scanning again

Every check of a scan leaves its annotation such that the same check, made again, writes the same
and changes nothing, whatever the module has done with the annotation since. A second scan makes the
checks of the first one. It therefore writes, plans and counts the same, whoever shares an
annotation with whom and whatever calls were made in between.
-/

namespace Contracts

open Annotation (Use)

/-- Putting a validator where it stands changes nothing. -/
theorem Store.set_self {V : Type} (store : Store V) (id : Nat) :
    store.set id (store id) = store := by
  funext n
  by_cases hn : n = id
  · rw [hn, set_same]
  · rw [set_other store _ hn]

variable {c : Catalogue} {store later : Store Annotation}

/-- Checks along sites that are made again write the same and change nothing. -/
theorem Visit.checkAt_again {id : Nat} {sites : List Site}
    (h : (checkAt id c store sites).2.EvolvesBy (Use.StaysIn c) later) :
    (checkAt id c later sites).1.messages = (checkAt id c store sites).1.messages ∧
      (checkAt id c later sites).2 = later := by
  induction sites generalizing store with
  | nil => exact ⟨rfl, rfl⟩
  | cons site rest ih =>
    -- Since the first check the annotation has been through the others and what came later.
    let next := store.set id ((store id).selfCheck site c).2
    have hlater : (checkAt id c next rest).2.EvolvesBy (Use.StaysIn c) later := h
    have hafter : next.EvolvesBy (Use.StaysIn c) later :=
      (evolvesBy_checkAt (fun _ => rfl) id next rest).trans hlater
    obtain ⟨history, hhistory, hnow⟩ := hafter id
    have hnext : next id = ((store id).selfCheck site c).2 := store.set_same id _
    rw [hnext] at hnow
    obtain ⟨hmessages, hstays⟩ := (store id).selfCheck_again site c hhistory
    rw [← hnow] at hmessages hstays
    obtain ⟨hrest, hstore⟩ := ih hlater
    have hsame : later.set id ((later id).selfCheck site c).2 = later := by
      rw [hstays, later.set_self]
    change Trace.messages (site.unknownType c ++ ((later id).selfCheck site c).1 ++
        (checkAt id c (later.set id ((later id).selfCheck site c).2) rest).1) =
      Trace.messages (site.unknownType c ++ ((store id).selfCheck site c).1 ++
        (checkAt id c next rest).1) ∧
      (checkAt id c (later.set id ((later id).selfCheck site c).2) rest).2 = later
    rw [hsame]
    simp only [Trace.messages_append, hmessages, hrest, hstore, and_self]

namespace ScanStep

/-- A step that is taken again has the same effect and changes nothing. -/
theorem run_again {step : ScanStep} (h : (step.run c store).store.EvolvesBy (Use.StaysIn c) later) :
    (step.run c later).effect = (step.run c store).effect ∧ (step.run c later).store = later := by
  cases step with
  | skip type property validators => exact ⟨rfl, rfl⟩
  | visit v =>
    obtain ⟨hmessages, hstore⟩ := Visit.checkAt_again h
    have herror : (Visit.checkAt v.validator c later v.checked).1.hasError =
        (Visit.checkAt v.validator c store v.checked).1.hasError := by
      unfold Trace.hasError
      rw [hmessages]
    refine ⟨?_, hstore⟩
    change (v.run c later).effect = (v.run c store).effect
    simp only [Pass.effect, v.messages_run, hmessages]
    simp only [Visit.run, herror]

/-- Steps that are taken again have the same effect and change nothing. -/
theorem runAll_again {steps : List ScanStep}
    (h : (runAll c store steps).store.EvolvesBy (Use.StaysIn c) later) :
    (runAll c later steps).effect = (runAll c store steps).effect ∧
      (runAll c later steps).store = later := by
  induction steps generalizing store with
  | nil => exact ⟨rfl, rfl⟩
  | cons step rest ih =>
    -- Between the two times that the step is taken lie the rest of the steps and what came later.
    have hstep : (step.run c store).store.EvolvesBy (Use.StaysIn c) later :=
      (evolvesBy_runAll (fun _ => rfl) _ rest).trans h
    obtain ⟨hhere, hsame⟩ := run_again hstep
    obtain ⟨hrest, hstore⟩ := ih h
    obtain ⟨hmessages, hplan, hregistered, hexcluded⟩ := Effect.mk.inj hhere
    obtain ⟨hmessages', hplan', hregistered', hexcluded'⟩ := Effect.mk.inj hrest
    simp only [runAll, hsame, hstore, Pass.effect, Trace.messages_append, hmessages, hplan,
      hregistered, hexcluded, hmessages', hplan', hregistered', hexcluded', and_self]

end ScanStep

/-- Scanning is idempotent. After a scan, whatever state it found the annotations in and whoever
shares them, and after any judgements and further checks in the same model, a second scan writes the
same messages in the same order, plans the same units, reports the same, and leaves every annotation
as it found it. -/
theorem Declarations.scan_again (d : Declarations) (store later : Store Annotation)
    (h : (d.scan store).store.EvolvesBy (Use.StaysIn d.catalogue) later) :
    (d.scan later).messages = (d.scan store).messages ∧
      (d.scan later).plan = (d.scan store).plan ∧
      (d.scan later).report = (d.scan store).report ∧
      (d.scan later).store = later := by
  obtain ⟨heffect, hstore⟩ := ScanStep.runAll_again h
  obtain ⟨hmessages, hplan, hregistered, hexcluded⟩ := Effect.mk.inj heffect
  refine ⟨?_, hplan, ?_, hstore⟩
  · change Trace.messages ((ScanStep.runAll d.catalogue later d.steps).trace ++ [.event _]) =
      Trace.messages ((ScanStep.runAll d.catalogue store d.steps).trace ++ [.event _])
    rw [Trace.messages_append, Trace.messages_append, hmessages]
    rfl
  · simp only [scan, hregistered, hexcluded]

/-- Orders and invoices share an annotation, which stays bound to orders: a call and a second scan
later the complaint about invoices is the same. -/
theorem Declarations.scan_again_settle :
    let m : MethodDecl Nat := ⟨"settle", "Shop",
      [⟨"orders", "Orders", [.validator 0]⟩, ⟨"invoices", "Invoices", [.validator 0]⟩], []⟩
    let d : Declarations := ⟨.shop, [m], []⟩
    let store : Store Annotation := fun _ => .fresh .notEmpty {}
    let call := (d.scan store).plan.checkCall (d.scan store).store "Shop" "settle" none
      [.collection "Order" [], .null]
    (d.scan store).store.EvolvesBy (Use.StaysIn d.catalogue) call.2 ∧
      (d.scan call.2).messages = [AnnotationRule.notEmpty.complaint .conflictingElementType
        "The annotation is bound to elements of type 'Order' and cannot also check 'Invoice'."] ∧
      (d.scan call.2).report = ⟨1, 0, 1, 1⟩ ∧ (d.scan call.2).store = call.2 := by
  intro m d store call
  have hcall : (d.scan store).store.EvolvesBy (Use.StaysIn d.catalogue) call.2 :=
    WeavePlan.evolvesBy_checkAll (fun _ _ => trivial) _ _
  obtain ⟨hmessages, -, hreport, hstore⟩ := d.scan_again store call.2 hcall
  exact ⟨hcall, hmessages, hreport, hstore⟩

end Contracts
