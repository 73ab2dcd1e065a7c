import Contracts.Command.Run
import Contracts.Proofs.Annotation.Severity
import Contracts.Proofs.Manifest.Numbering
import Contracts.Proofs.Weaving.Accounting

/-!
# Which manifests pass

Annotations write errors only, so the warnings of a check are those on read-only properties. A
manifest passes when its scan excluded nothing and, where warnings count as failures, when no
read-only property carries a validator.
-/

namespace Contracts

/-- Where all messages are errors, none is a warning. -/
theorem Trace.OnlyErrors.count_warning {t : Trace} (h : t.OnlyErrors) :
    Message.count t.messages .warning = 0 := by
  refine List.countP_eq_zero.mpr fun m hm hwarning => ?_
  have herror : m.severity = .error := beq_iff_eq.mp (h m hm)
  rw [herror] at hwarning
  contradiction

namespace ScanStep

/-- A visit of an annotation writes errors only. -/
theorem onlyErrors_visit (v : Visit) (c : Catalogue) (store : Store Annotation) :
    Trace.OnlyErrors (v.run c store).trace :=
  (Visit.onlyErrors_checkAt v.validator c store v.checked).append <| Trace.onlyErrors_event _

/-- Steps over annotations write one warning for each property that they pass over. -/
theorem count_warning_passes (c : Catalogue) (store : Store Annotation) (steps : List ScanStep) :
    Message.count ((passes c store steps).flatMap (·.2.trace.messages)) .warning =
      (steps.filter isSkip).length := by
  induction steps generalizing store with
  | nil => rfl
  | cons step rest ih =>
    have hstep : Message.count (step.run c store).trace.messages .warning =
        if step.isSkip then 1 else 0 := by
      cases step with
      | visit v => exact (onlyErrors_visit v c store).count_warning
      | skip type property validators => rfl
    have hsplit : Message.count ((passes c store (step :: rest)).flatMap (·.2.trace.messages))
        .warning = Message.count (step.run c store).trace.messages .warning +
          Message.count ((passes c (step.run c store).store rest).flatMap (·.2.trace.messages))
            .warning := List.countP_append
    rw [hsplit, hstep, ih, List.filter_cons]
    split
    · rw [List.length_cons, Nat.add_comm]
    · exact Nat.zero_add _

end ScanStep

/-- A scan of annotations writes one warning for each read-only property with validators. -/
theorem Declarations.count_warning_scan (d : Declarations) (store : Store Annotation) :
    Message.count (d.scan store).messages .warning = d.readOnlyGuarded.length := by
  rw [(d.accounts store).messages, passes, ScanStep.count_warning_passes, d.filter_isSkip_steps,
    List.length_map]

namespace Manifest

/-- The read-only properties of a manifest's declarations with validators are those of the
manifest. -/
theorem readOnlyGuarded_declarations_eq_nil_iff (m : Manifest) :
    m.declarations.readOnlyGuarded = [] ↔
      ∀ p ∈ m.properties, p.writable = false → p.validators = [] := by
  have hkept : m.declarations.properties.map (fun p => (p.writable, p.validators.length)) =
      m.properties.map fun p => (p.writable, p.validators.length) :=
    map_numberAll _ PropertyDecl.number _ _
      (fun start p => by rw [p.validators_number, List.length_range']; rfl) _ _
  have hread (properties : List (PropertyDecl Nat)) :
      (∀ p ∈ properties, p.writable = false → p.validators = []) ↔
        ∀ kept ∈ properties.map (fun p => (p.writable, p.validators.length)),
          kept.1 = false → kept.2 = 0 := by
    simp
  have hsame : (∀ p ∈ m.properties, p.writable = false → p.validators = []) ↔
      ∀ kept ∈ m.properties.map (fun p => (p.writable, p.validators.length)),
        kept.1 = false → kept.2 = 0 := by
    simp
  rw [hsame, ← hkept, ← hread, Declarations.readOnlyGuarded, List.filter_eq_nil_iff]
  simp

/-- The report on a manifest passes when nothing was excluded and, if warnings count as failures,
no read-only property carries a validator. -/
theorem passed_ofScan_iff (m : Manifest) (denyWarnings : Bool) :
    (CheckReport.ofScan (m.declarations.scan m.store) denyWarnings).passed = true ↔
      (m.declarations.scan m.store).report.excluded = 0 ∧
        (denyWarnings = true → ∀ p ∈ m.properties, p.writable = false → p.validators = []) := by
  have hclean := (m.declarations.accounts m.store).clean
  rw [← m.readOnlyGuarded_declarations_eq_nil_iff, ← List.length_eq_zero_iff,
    ← m.declarations.count_warning_scan m.store, hclean]
  simp only [CheckReport.ofScan]
  cases denyWarnings with
  | true => simp
  | false => simp

end Manifest

/-- The command that checks a manifest which can be loaded reports on its scan. -/
theorem Command.result_runCheck {read : FileReader} {path : String} {m : Manifest}
    (hload : Manifest.load read path = .ok m) (settings : Settings) :
    (runCheck read settings path).result =
      let report := CheckReport.ofScan (m.declarations.scan m.store) settings.denyWarnings
      .ok ⟨report.write settings.output, report.passed⟩ := by
  have hweave : (weave read path).result = .ok (m.declarations.scan m.store) := by
    unfold weave
    rw [hload]
  change (Stage.andThen (weave read path) _).result = _
  unfold Stage.andThen
  rw [hweave]
  rfl

/-- The accounts of every scan are in order, whatever its validators write; and with settings and a
log that can be set up, a check of a manifest that can be loaded comes to an end, which is a good
one when its scan excluded nothing and, if warnings count as failures, no read-only property carries
an annotation. -/
theorem Request.check_accounts :
    (∀ (V : Type) [Validator V] (d : Declarations) (store : Store V), d.Accounts store) ∧
    ∀ (r : Request) (read : FileReader) (environment : List (String × String)) (path : String)
      (settings : Settings) (log : Log) (m : Manifest),
      r.command = .check path →
      Settings.load read environment r.settingsPath r.overrides = .ok settings →
      Log.open? settings.log = .ok log →
      Manifest.load read path = .ok m →
      ∃ completion, (r.perform read environment).ending = .completed completion ∧
        ((r.perform read environment).code = 0 ↔ completion.passed = true) ∧
        (completion.passed = true ↔
          (m.declarations.scan m.store).report.excluded = 0 ∧
            (settings.denyWarnings = true →
              ∀ p ∈ m.properties, p.writable = false → p.validators = [])) := by
  refine ⟨fun V _ d store => d.accounts store, ?_⟩
  intro r read environment path settings log m hcommand hsettings hlog hload
  have hresult := Command.result_runCheck hload settings
  let report := CheckReport.ofScan (m.declarations.scan m.store) settings.denyWarnings
  have hending : (r.perform read environment).ending =
      .completed ⟨report.write settings.output, report.passed⟩ := by
    unfold perform
    rw [hsettings]
    dsimp only
    rw [hlog, hcommand]
    dsimp only [Command.perform]
    rw [hresult]
  refine ⟨_, hending, ?_, m.passed_ofScan_iff settings.denyWarnings⟩
  rw [RunResult.code, hending]
  dsimp only
  split
  · rename_i hpassed
    exact iff_of_true rfl hpassed
  · rename_i hfailed
    exact iff_of_false Nat.one_ne_zero hfailed

/-- The filter of a log that nobody configures lets warnings and errors through. -/
theorem LogFilter.read_warn : LogFilter.read "warn" = .ok [{ ceiling := some .warn }] := by
  have hsplit : "warn".splitOn "," = ["warn"] := by
    unfold String.splitOn
    rw [if_neg (by decide)]
    -- one step for each character, and one at the end
    iterate 5 rw [String.splitOnAux]
    decide
  unfold LogFilter.read
  rw [hsplit]
  rfl

/-- A property of an order that cannot be written and carries an annotation. -/
def PropertyDecl.annotatedTotal : PropertyDecl Annotation :=
  ⟨"Total", "Order", "i32", false, [.validator { rule := .notNull }]⟩

/-- The text of a manifest of one read-only property with an annotation. -/
def Manifest.annotatedTotalText : String :=
  "\x7b\"properties\":[\x7b\"name\":\"Total\",\"declaring_type\":\"Order\",\"type\":\"i32\"," ++
    "\"writable\":false,\"attributes\":[\x7b\"kind\":\"not_null\"\x7d]\x7d]\x7d"

set_option maxRecDepth 10000 in
/-- The text is that of the property. -/
theorem Manifest.ofJsonText_annotatedTotalText :
    ofJsonText annotatedTotalText = .ok { properties := [.annotatedTotal] } := by
  with_unfolding_all rfl

/-- A manifest of one read-only property with an annotation passes unless warnings count as
failures. -/
theorem Request.check_accounts_annotatedTotal :
    let read : FileReader := fun path =>
      if path = "shop.json" then .ok Manifest.annotatedTotalText else .error .notFound
    let request (deny : Bool) : Request :=
      ⟨"warden.toml", { denyWarnings := some deny }, .check "shop.json"⟩
    ((request false).perform read []).code = 0 ∧ ((request true).perform read []).code ≠ 0 := by
  intro read request
  have hload : Manifest.load read "shop.json" = .ok { properties := [.annotatedTotal] } := by
    change (Manifest.ofJsonText Manifest.annotatedTotalText).mapError ManifestError.json = _
    rw [Manifest.ofJsonText_annotatedTotalText]
    rfl
  have hsettings (deny : Bool) :
      Settings.load read [] "warden.toml" { denyWarnings := some deny } =
        .ok { denyWarnings := deny } := by
    cases deny with
    | false => decide +kernel
    | true => decide +kernel
  have hlog (deny : Bool) : Log.open? (Settings.log { denyWarnings := deny }) =
      .ok ⟨{}, [{ ceiling := some .warn }]⟩ := by
    unfold Log.open?
    rw [LogFilter.read_warn]
  obtain ⟨_, -, hcode, hpassed⟩ := check_accounts.2 (request false) read [] "shop.json" _ _ _ rfl
    (hsettings false) (hlog false) hload
  obtain ⟨_, -, hcode', hpassed'⟩ := check_accounts.2 (request true) read [] "shop.json" _ _ _ rfl
    (hsettings true) (hlog true) hload
  refine ⟨hcode.mpr (hpassed.mpr ⟨rfl, fun hdeny => nomatch hdeny⟩), fun hpasses => ?_⟩
  have hnone := (hpassed'.mp (hcode'.mp hpasses)).2 rfl .annotatedTotal
    (List.mem_singleton.mpr rfl) rfl
  exact List.cons_ne_nil _ _ hnone

end Contracts
