import Contracts.Proofs.Weaving.Accounting
import Contracts.Proofs.Weaving.Sinks

/-!
# The log of a scan

When a scan is logged, every message is announced by an event, and the scan reports the outcome of
each visit and its counts at the end. In the log of a module of annotations the outcomes can be
told from all other events, and an outcome belongs to the messages before it: a visit is an
exclusion exactly if an error has been announced since the outcome before. This is kept step by
step, as the log of a step leaves no error behind that has not been accounted for.
-/

namespace Contracts

namespace Event

/-- Whether an event tells that a validator was registered. -/
def isRegistration (e : Event) : Bool :=
  e.target == scanSource && e.message == "registered advice"

/-- Whether an event tells that a validator was excluded. -/
def isExclusion (e : Event) : Bool :=
  e.target == scanSource && e.message == "excluded from weaving"

/-- Whether an event tells the outcome of a visit. -/
def isOutcome (e : Event) : Bool := e.isRegistration || e.isExclusion

/-- Whether an event announces a message. -/
def isDiagnostic (e : Event) : Bool := e.target == "warden_weave::diagnostic"

/-- Whether an event announces an error. -/
def reportsError (e : Event) : Bool := e.isDiagnostic && e.level == .error

/-- Whether an event neither announces a message nor tells an outcome. -/
def isAside (e : Event) : Bool := !e.isDiagnostic && !e.isOutcome

end Event

/-- The event that announces a message is such, and tells no outcome. -/
theorem Message.isDiagnostic_event (m : Message) :
    m.event.isDiagnostic = true ∧ m.event.isOutcome = false := by
  constructor
  · rfl
  · rfl

/-- The event that announces a message reports an error if the message is one. -/
theorem Message.reportsError_event (m : Message) : m.event.reportsError = m.isError := by
  obtain ⟨severity, code, text, source⟩ := m
  cases severity <;> rfl

namespace Trace

/-- All events of a trace are asides. -/
def OnlyAsides (t : Trace) : Prop := ∀ e ∈ t.events, e.isAside = true

variable {s t : Trace}

/-- A trace without events has only asides. -/
theorem onlyAsides_of_events_eq_nil (h : t.events = []) : OnlyAsides t := by simp [OnlyAsides, h]

/-- An aside alone is one. -/
theorem onlyAsides_event {e : Event} (h : e.isAside = true) : OnlyAsides [.event e] := by
  simpa [OnlyAsides] using h

/-- Traces with only asides can be put behind each other. -/
theorem OnlyAsides.append (hs : OnlyAsides s) (ht : OnlyAsides t) : OnlyAsides (s ++ t) := by
  intro e he
  rw [events_append, List.mem_append] at he
  exact he.elim (hs e) (ht e)

end Trace

namespace Annotation

variable (a : Annotation)

/-- Resolving the policy reports nothing but an aside. -/
theorem onlyAsides_resolvePolicy (c : Catalogue) : Trace.OnlyAsides (a.resolvePolicy c).1 := by
  unfold resolvePolicy
  cases a.failure.errorType with
  | none => exact Trace.onlyAsides_of_events_eq_nil rfl
  | some type =>
    dsimp only
    split
    · exact Trace.onlyAsides_of_events_eq_nil rfl
    · split
      · exact Trace.onlyAsides_of_events_eq_nil rfl
      · split
        · exact Trace.onlyAsides_of_events_eq_nil rfl
        · exact Trace.onlyAsides_event rfl

/-- Binding to an element type reports nothing but an aside. -/
theorem onlyAsides_specialize (element : String) :
    Trace.OnlyAsides (a.specialize element).1 := by
  unfold specialize
  split
  · exact Trace.onlyAsides_of_events_eq_nil rfl
  · split
    · exact Trace.onlyAsides_event rfl
    · split <;> exact Trace.onlyAsides_of_events_eq_nil rfl

/-- Checking the bounds of an interval reports nothing. -/
theorem events_boundProblems (r : IntervalRule) : Trace.events (a.boundProblems r) = [] := by
  unfold boundProblems
  split
  · rfl
  · rfl
  · split <;> rfl

/-- Preparing a pattern reports nothing. -/
theorem events_preparePattern (r : PatternRule) : Trace.events (a.preparePattern r).1 = [] := by
  unfold preparePattern
  split
  · rfl
  · split <;> rfl

/-- Checking the rule against a type reports nothing but an aside. -/
theorem onlyAsides_checkType (site : Site) (type : String) (c : Catalogue) :
    Trace.OnlyAsides (a.checkType site type c).1 := by
  have hunless (condition : Bool) (problem : Problem) (text : String) :
      Trace.OnlyAsides (if condition then [] else [a.complain problem text]) := by
    cases condition <;> exact Trace.onlyAsides_of_events_eq_nil rfl
  unfold checkType
  cases a.rule with
  | notNull => exact hunless _ _ _
  | notEmpty =>
    dsimp only
    split
    · exact Trace.onlyAsides_of_events_eq_nil rfl
    · split
      · exact a.onlyAsides_specialize _
      · exact Trace.onlyAsides_of_events_eq_nil rfl
  | interval r =>
    exact (hunless _ _ _).append (Trace.onlyAsides_of_events_eq_nil (a.events_boundProblems r))
  | pattern r =>
    exact (hunless _ _ _).append (Trace.onlyAsides_of_events_eq_nil (a.events_preparePattern r))

/-- A self-check reports nothing but asides. -/
theorem onlyAsides_selfCheck (site : Site) (c : Catalogue) :
    Trace.OnlyAsides (a.selfCheck site c).1 := by
  rw [selfCheck_fst, checkDeclared]
  refine (a.onlyAsides_resolvePolicy c).append ?_
  split
  · exact Trace.onlyAsides_of_events_eq_nil rfl
  · exact onlyAsides_checkType _ site _ c

end Annotation

/-- The complaint about an undeclared type reports nothing. -/
theorem Site.events_unknownType (site : Site) (c : Catalogue) :
    Trace.events (site.unknownType c) = [] := by
  unfold unknownType
  split
  · rfl
  · split <;> rfl

/-- Checks of an annotation along sites report nothing but asides. -/
theorem Visit.onlyAsides_checkAt (id : Nat) (c : Catalogue) (store : Store Annotation)
    (sites : List Site) : Trace.OnlyAsides (checkAt id c store sites).1 := by
  induction sites generalizing store with
  | nil => exact Trace.onlyAsides_of_events_eq_nil rfl
  | cons site rest ih =>
    have hsite := Trace.onlyAsides_of_events_eq_nil (site.events_unknownType c)
    exact (hsite.append ((store id).onlyAsides_selfCheck site c)).append (ih _)

namespace Trace

variable {t : Trace}

/-- Behind announcements there are the events that announce a message, and those of the trace. -/
theorem mem_events_announced_iff {e : Event} :
    e ∈ t.announced.events ↔ (∃ m ∈ t.messages, m.event = e) ∨ e ∈ t.events := by
  induction t with
  | nil => simp
  | cons entry rest ih =>
    cases entry with
    | message m => simp [ih, or_assoc, eq_comm]
    | event other => simp [ih, or_left_comm]

/-- If no event of a trace announces a message, every message is announced once, and in order. -/
theorem filter_isDiagnostic_announced (h : ∀ e ∈ t.events, e.isDiagnostic = false) :
    t.announced.events.filter (·.isDiagnostic) = t.messages.map Message.event := by
  induction t with
  | nil => rfl
  | cons entry rest ih =>
    cases entry with
    | message m => simp [ih h, m.isDiagnostic_event.1]
    | event e =>
      rw [events_event, List.forall_mem_cons] at h
      simp [ih h.2, h.1]

/-- The announcements of a trace with only asides tell no outcome. -/
theorem OnlyAsides.isOutcome_announced (h : OnlyAsides t) :
    ∀ e ∈ t.announced.events, e.isOutcome = false := by
  intro e he
  rcases mem_events_announced_iff.mp he with ⟨m, -, rfl⟩ | hown
  · exact m.isDiagnostic_event.2
  · have haside := h e hown
    rw [Event.isAside, Bool.and_eq_true, Bool.not_eq_true', Bool.not_eq_true'] at haside
    exact haside.2

/-- No event of a trace with only asides announces a message. -/
theorem OnlyAsides.isDiagnostic (h : OnlyAsides t) : ∀ e ∈ t.events, e.isDiagnostic = false := by
  intro e he
  have haside := h e he
  rw [Event.isAside, Bool.and_eq_true, Bool.not_eq_true'] at haside
  exact haside.1

/-- Where only messages are announced, errors are announced exactly if there are some. -/
theorem any_reportsError_announced (h : ∀ e ∈ t.events, e.isDiagnostic = false) :
    t.announced.events.any (·.reportsError) = t.hasError := by
  rw [Bool.eq_iff_iff, List.any_eq_true, hasError, List.any_eq_true]
  constructor
  · rintro ⟨e, he, herror⟩
    rcases mem_events_announced_iff.mp he with ⟨m, hm, rfl⟩ | hown
    · exact ⟨m, hm, m.reportsError_event ▸ herror⟩
    · rw [Event.reportsError, h e hown] at herror
      contradiction
  · rintro ⟨m, hm, herror⟩
    exact ⟨m.event, mem_events_announced_iff.mpr (.inl ⟨m, hm, rfl⟩), m.reportsError_event ▸ herror⟩

end Trace

/-- The log of a part of a scan. -/
def Pass.log {V : Type} (pass : Pass V) : List Event := pass.trace.announced.events

namespace ScanStep

/-- The log of a step. Each message is announced. A visit tells one outcome, after all its messages,
which is an exclusion if there is an error among them. Passing over a property tells no outcome and
announces no error. -/
def Logged {V : Type} [Validator V] (pass : Pass V) (step : ScanStep) : Prop :=
  pass.log.filter (·.isDiagnostic) = pass.trace.messages.map Message.event ∧
    match step with
    | .visit v => ∃ body, pass.log = body ++ [v.outcome pass.store (!pass.trace.hasError)] ∧
        (∀ e ∈ body, e.isOutcome = false) ∧ body.any (·.reportsError) = pass.trace.hasError
    | .skip _ _ _ =>
      (∀ e ∈ pass.log, e.isOutcome = false) ∧ pass.log.any (·.reportsError) = false

end ScanStep

/-- An outcome announces no message, and tells what it is the outcome of. -/
theorem Visit.isDiagnostic_outcome {V : Type} [Validator V] (v : Visit) (store : Store V)
    (admitted : Bool) :
    (v.outcome store admitted).isDiagnostic = false ∧
      (v.outcome store admitted).isRegistration = admitted ∧
      (v.outcome store admitted).isExclusion = !admitted := by
  cases admitted <;> exact ⟨rfl, rfl, rfl⟩

/-- An outcome is one, whichever it is. -/
theorem Visit.isOutcome_outcome {V : Type} [Validator V] (v : Visit) (store : Store V)
    (admitted : Bool) : (v.outcome store admitted).isOutcome = true := by
  obtain ⟨-, hregistration, hexclusion⟩ := v.isDiagnostic_outcome store admitted
  rw [Event.isOutcome, hregistration, hexclusion, Bool.or_not_self]

/-- A registration is logged for debugging, and an exclusion as a warning. -/
theorem Visit.level_outcome {V : Type} [Validator V] (v : Visit) (store : Store V)
    (admitted : Bool) :
    ((v.outcome store admitted).isRegistration = true →
        (v.outcome store admitted).level = .debug) ∧
      ((v.outcome store admitted).isExclusion = true →
        (v.outcome store admitted).level = .warn) := by
  obtain ⟨-, hregistration, hexclusion⟩ := v.isDiagnostic_outcome store admitted
  rw [hregistration, hexclusion]
  cases admitted with
  | true => exact ⟨fun _ => rfl, nofun⟩
  | false => exact ⟨nofun, fun _ => rfl⟩

/-- The log of every step of a module of annotations is in order. -/
theorem ScanStep.logged_run (step : ScanStep) (c : Catalogue) (store : Store Annotation) :
    step.Logged (step.run c store) := by
  cases step with
  | skip type property validators =>
    refine ⟨rfl, fun e he => ?_, rfl⟩
    rcases List.mem_pair.mp he with rfl | rfl
    · rfl
    · rfl
  | visit v =>
    have hasides := Visit.onlyAsides_checkAt v.validator c store v.checked
    have hoops := v.isDiagnostic_outcome (v.run c store).store (!(v.run c store).trace.hasError)
    have herror : (v.run c store).trace.hasError =
        (Visit.checkAt v.validator c store v.checked).1.hasError := by
      rw [Trace.hasError, v.messages_run, Trace.hasError]
    have hlog : (v.run c store).log =
        (Visit.checkAt v.validator c store v.checked).1.announced.events ++
          [v.outcome (v.run c store).store (!(v.run c store).trace.hasError)] := by
      rw [herror]
      simp [Pass.log, Visit.run]
    refine ⟨?_, _, hlog, hasides.isOutcome_announced, ?_⟩
    · change (v.run c store).log.filter _ = _
      rw [hlog, List.filter_append, Trace.filter_isDiagnostic_announced hasides.isDiagnostic,
        List.filter_singleton, hoops.1, ScanStep.run, v.messages_run]
      simp
    · rw [ScanStep.run, herror, Trace.any_reportsError_announced hasides.isDiagnostic]

namespace Event

/-- Registrations are among the outcomes. -/
theorem countP_isRegistration (log : List Event) :
    log.countP (·.isRegistration) = (log.filter (·.isOutcome)).countP (·.isRegistration) := by
  rw [List.countP_filter]
  refine List.countP_congr fun e _ => ?_
  simp +contextual [isOutcome]

/-- Exclusions are among the outcomes. -/
theorem countP_isExclusion (log : List Event) :
    log.countP (·.isExclusion) = (log.filter (·.isOutcome)).countP (·.isExclusion) := by
  rw [List.countP_filter]
  refine List.countP_congr fun e _ => ?_
  simp +contextual [isOutcome]

/-- Whether an error has been announced since the last outcome, after one more event. -/
def pending (before : Bool) (e : Event) : Bool := !e.isOutcome && (before || e.reportsError)

/-- Every outcome in a log is an exclusion exactly if an error has been announced since the outcome
before it, given whether one has been announced before the log begins. -/
def Attributed : Bool → List Event → Prop
  | _, [] => True
  | before, e :: rest =>
    (e.isOutcome = true → e.isExclusion = before) ∧ Attributed (e.pending before) rest

variable {before : Bool}

/-- Logs that follow each other are attributed one after the other. -/
theorem attributed_append {log more : List Event} :
    Attributed before (log ++ more) ↔
      Attributed before log ∧ Attributed (log.foldl pending before) more := by
  induction log generalizing before with
  | nil => simp [Attributed]
  | cons e rest ih => simp [Attributed, ih, and_assoc]

/-- A log without outcomes leaves all its errors to what follows. -/
theorem foldl_pending_of_no_outcome {log : List Event} (h : ∀ e ∈ log, e.isOutcome = false) :
    log.foldl pending before = (before || log.any (·.reportsError)) := by
  induction log generalizing before with
  | nil => simp
  | cons e rest ih =>
    rw [List.forall_mem_cons] at h
    simp [ih h.2, pending, h.1, Bool.or_assoc]

/-- A log without outcomes has none to attribute. -/
theorem attributed_of_no_outcome {log : List Event} (h : ∀ e ∈ log, e.isOutcome = false) :
    Attributed before log := by
  induction log generalizing before with
  | nil => trivial
  | cons e rest ih =>
    rw [List.forall_mem_cons] at h
    exact ⟨fun houtcome => by rw [h.1] at houtcome; contradiction, ih h.2⟩

/-- Nothing is pending after an outcome, and before the first event. -/
theorem foldl_pending_of_getLast? {log : List Event}
    (h : ∀ last ∈ log.getLast?, last.isOutcome = true) : log.foldl pending false = false := by
  rcases List.eq_nil_or_concat log with rfl | ⟨front, last, rfl⟩
  · rfl
  · have hlast : last.isOutcome = true := h last (by simp)
    simp [pending, hlast]

/-- In an attributed log an outcome is an exclusion exactly if an error is announced between it and
the outcome before it. -/
theorem Attributed.isExclusion_iff {front segment after : List Event} {outcome : Event}
    (h : Attributed false (front ++ segment ++ outcome :: after))
    (houtcome : outcome.isOutcome = true)
    (hfront : ∀ last ∈ front.getLast?, last.isOutcome = true)
    (hsegment : ∀ e ∈ segment, e.isOutcome = false) :
    outcome.isExclusion = true ↔ ∃ e ∈ segment, e.reportsError = true := by
  obtain ⟨-, hrest⟩ := attributed_append.mp h
  rw [List.foldl_append, foldl_pending_of_getLast? hfront, foldl_pending_of_no_outcome hsegment,
    Bool.false_or] at hrest
  rw [hrest.1 houtcome, List.any_eq_true]

end Event

namespace ScanStep

variable {V : Type} [Validator V] {step : ScanStep} {pass : Pass V}

/-- The outcomes that a step tells. -/
def outcomes (pass : Pass V) : ScanStep → List Event
  | .visit v => [v.outcome pass.store (!pass.trace.hasError)]
  | .skip _ _ _ => []

/-- The outcomes in the log of a step are those that it tells. -/
theorem Logged.filter_isOutcome (h : step.Logged pass) :
    pass.log.filter (·.isOutcome) = step.outcomes pass := by
  have hnone {log : List Event} (hlog : ∀ e ∈ log, e.isOutcome = false) :
      log.filter (·.isOutcome) = [] :=
    List.filter_eq_nil_iff.mpr fun e he => Bool.eq_false_iff.mp (hlog e he)
  cases step with
  | skip type property validators => exact hnone h.2.1
  | visit v =>
    obtain ⟨-, body, hlog, hbody, -⟩ := h
    have houtcome := v.isOutcome_outcome pass.store (!pass.trace.hasError)
    rw [hlog, List.filter_append, hnone hbody, List.filter_singleton, houtcome]
    rfl

/-- The log of a step is attributed and leaves no error behind. -/
theorem Logged.attributed (h : step.Logged pass) :
    Event.Attributed false pass.log ∧ pass.log.foldl Event.pending false = false := by
  cases step with
  | visit v =>
    obtain ⟨-, body, hlog, hbody, herror⟩ := h
    have houtcome := v.isOutcome_outcome pass.store (!pass.trace.hasError)
    have hexclusion := (v.isDiagnostic_outcome pass.store (!pass.trace.hasError)).2.2
    rw [hlog, Event.attributed_append, List.foldl_append, Event.foldl_pending_of_no_outcome hbody,
      herror]
    refine ⟨⟨Event.attributed_of_no_outcome hbody, fun _ => ?_, trivial⟩, ?_⟩
    · rw [hexclusion, Bool.not_not, Bool.false_or]
    · simp [Event.pending, houtcome]
  | skip type property validators =>
    obtain ⟨-, hnone, herror⟩ := h
    exact ⟨Event.attributed_of_no_outcome hnone, by
      rw [Event.foldl_pending_of_no_outcome hnone, herror, Bool.false_or]⟩

/-- A step counts what the outcomes in its log tell. -/
theorem Logged.counts (h : step.Logged pass) (haccount : step.Accounted pass) :
    pass.registered = pass.log.countP (·.isRegistration) ∧
      pass.excluded = pass.log.countP (·.isExclusion) := by
  rw [Event.countP_isRegistration, Event.countP_isExclusion, h.filter_isOutcome]
  cases step with
  | skip type property validators =>
    obtain ⟨-, hregistered, hexcluded, -⟩ := haccount
    exact ⟨hregistered, hexcluded⟩
  | visit v =>
    obtain ⟨-, hregistration, hexclusion⟩ :=
      v.isDiagnostic_outcome pass.store (!pass.trace.hasError)
    rw [outcomes, List.countP_singleton, List.countP_singleton, hregistration, hexclusion,
      Bool.not_not]
    rcases haccount with ⟨herror, hregistered, hexcluded, -⟩ | ⟨hclean, hregistered, hexcluded, -⟩
    · have hhas : pass.trace.hasError = true := List.any_eq_true.mpr herror
      simp [hhas, hregistered, hexcluded]
    · have hhas : pass.trace.hasError = false := by simpa [Trace.hasError] using hclean
      simp [hhas, hregistered, hexcluded]

/-- A visit tells its outcome on a level that goes with it, and that is all a step tells. -/
theorem Logged.levels (h : step.Logged pass) :
    ∀ e ∈ pass.log, (e.isRegistration = true → e.level = .debug) ∧
      (e.isExclusion = true → e.level = .warn) := by
  intro e he
  by_cases houtcome : e.isOutcome = true
  · have hmem : e ∈ step.outcomes pass := by
      rw [← h.filter_isOutcome]
      exact List.mem_filter.mpr ⟨he, houtcome⟩
    cases step with
    | skip type property validators => contradiction
    | visit v =>
      rw [outcomes, List.mem_singleton] at hmem
      exact hmem ▸ v.level_outcome _ _
  · rw [Event.isOutcome, Bool.or_eq_true, not_or] at houtcome
    exact ⟨fun hr => absurd hr houtcome.1, fun hx => absurd hx houtcome.2⟩

/-- A step tells as many outcomes as it visits validators. -/
theorem length_outcomes (step : ScanStep) (pass : Pass V) :
    (step.outcomes pass).length = step.validator?.toList.length := by
  cases step <;> rfl

variable {each : List (ScanStep × Pass V)}

/-- The logs of steps that follow each other are attributed, and leave no error behind. -/
theorem attributed_of_logged (h : ∀ p ∈ each, p.1.Logged p.2) :
    Event.Attributed false (each.flatMap (·.2.log)) ∧
      (each.flatMap (·.2.log)).foldl Event.pending false = false := by
  induction each with
  | nil => exact ⟨trivial, rfl⟩
  | cons p rest ih =>
    rw [List.forall_mem_cons] at h
    obtain ⟨hfirst, hnone⟩ := h.1.attributed
    rw [List.flatMap_cons, Event.attributed_append, List.foldl_append, hnone]
    exact ⟨⟨hfirst, (ih h.2).1⟩, (ih h.2).2⟩

/-- Steps announce their messages in order. -/
theorem announced_of_logged (h : ∀ p ∈ each, p.1.Logged p.2) :
    (each.flatMap (·.2.log)).filter (·.isDiagnostic) =
      (each.flatMap (·.2.trace.messages)).map Message.event := by
  rw [List.filter_flatMap, List.map_flatMap]
  exact List.flatMap_congr fun p hp => (h p hp).1

/-- Steps tell as many outcomes as they visit validators. -/
theorem outcomes_of_logged (h : ∀ p ∈ each, p.1.Logged p.2) :
    ((each.flatMap (·.2.log)).filter (·.isOutcome)).length =
      (each.filterMap (·.1.validator?)).length := by
  have houtcomes : (each.flatMap (·.2.log)).filter (·.isOutcome) =
      each.flatMap fun p => p.1.outcomes p.2 := by
    rw [List.filter_flatMap]
    exact List.flatMap_congr fun p hp => (h p hp).filter_isOutcome
  rw [houtcomes, List.length_flatMap]
  simp only [length_outcomes, ← List.length_flatMap, List.filterMap_eq_flatMap_toList]

/-- Steps count what the outcomes in their logs tell. -/
theorem counts_of_logged (h : ∀ p ∈ each, p.1.Logged p.2 ∧ p.1.Accounted p.2) :
    (each.map (·.2.registered)).sum = (each.flatMap (·.2.log)).countP (·.isRegistration) ∧
      (each.map (·.2.excluded)).sum = (each.flatMap (·.2.log)).countP (·.isExclusion) := by
  rw [List.countP_flatMap, List.countP_flatMap]
  constructor
  · exact congrArg List.sum (List.map_congr_left fun p hp => ((h p hp).1.counts (h p hp).2).1)
  · exact congrArg List.sum (List.map_congr_left fun p hp => ((h p hp).1.counts (h p hp).2).2)

/-- The log of every step of a scan of annotations is in order. -/
theorem logged_of_mem_passes {c : Catalogue} {store : Store Annotation} {steps : List ScanStep}
    {p : ScanStep × Pass Annotation} (hp : p ∈ passes c store steps) : p.1.Logged p.2 := by
  obtain ⟨before, hrun⟩ := exists_run_of_mem_passes hp
  rw [hrun]
  exact logged_run p.1 c before

end ScanStep

/-- The announcements of traces behind each other. -/
theorem Trace.events_announced_flatMap {α : Type} (items : List α) (f : α → Trace) :
    (announced (items.flatMap f)).events = items.flatMap fun a => (f a).announced.events := by
  induction items with
  | nil => rfl
  | cons a rest ih => simp [ih]

namespace Declarations

/-- The log of a scan, item by item. -/
structure IsLog {V : Type} [Validator V] (d : Declarations) (store : Store V)
    (log : List Event) : Prop where
  /-- The steps of the scan are logged one after the other, and the report at the end. -/
  steps : log = (d.passes store).flatMap (·.2.log) ++ [(d.scan store).report.event]
  /-- Each visit announces its messages and then tells its outcome. -/
  logged : ∀ p ∈ d.passes store, p.1.Logged p.2
  /-- The validators on parameters, methods and writable properties are visited, each once. -/
  visited : (d.passes store).filterMap (·.1.validator?) = d.guards
  /-- Every message is announced once, in order. -/
  announced : log.filter (·.isDiagnostic) = (d.scan store).messages.map Message.event
  /-- Messages are announced on the level of their severity. -/
  severities : (log.filter (·.isDiagnostic)).map (·.level) =
    (d.scan store).messages.map (·.severity.level)
  /-- Every visit has one outcome. -/
  outcomes : (log.filter (·.isOutcome)).length = d.guards.length
  /-- Registrations are logged for debugging, and exclusions as warnings. -/
  levels : ∀ e ∈ log, (e.isRegistration = true → e.level = .debug) ∧
    (e.isExclusion = true → e.level = .warn)
  /-- An outcome is an exclusion exactly if an error is announced between it and the outcome before
  it, or the beginning of the log. -/
  attributed : ∀ front segment outcome after, log = front ++ segment ++ outcome :: after →
    outcome.isOutcome = true → (∀ last ∈ front.getLast?, last.isOutcome = true) →
    (∀ e ∈ segment, e.isOutcome = false) →
    (outcome.isExclusion = true ↔ ∃ e ∈ segment, e.reportsError = true)
  /-- The report comes last. -/
  report : log.getLast? = some (d.scan store).report.event
  /-- As many validators are reported as registered as there are registrations. -/
  registered : (d.scan store).report.registered = log.countP (·.isRegistration)
  /-- As many validators are reported as excluded as there are exclusions. -/
  excluded : (d.scan store).report.excluded = log.countP (·.isExclusion)

/-- The events of a scan of annotations whose messages are announced are its log. -/
theorem isLog_announced (d : Declarations) (store : Store Annotation) :
    d.IsLog store (d.scan store).trace.announced.events := by
  obtain ⟨htrace, -⟩ := ScanStep.runAll_eq_passes d.catalogue store d.steps
  have haccounts := d.accounts store
  have hlogged : ∀ p ∈ d.passes store, p.1.Logged p.2 := fun p hp =>
    ScanStep.logged_of_mem_passes hp
  have hsteps : (d.scan store).trace.announced.events =
      (d.passes store).flatMap (·.2.log) ++ [(d.scan store).report.event] := by
    change Trace.events (Trace.announced (_ ++ [.event _])) = _
    rw [Trace.announced_append, Trace.events_append, htrace, Trace.events_announced_flatMap]
    rfl
  obtain ⟨hregistered, hexcluded⟩ :=
    ScanStep.counts_of_logged fun p hp => ⟨hlogged p hp, haccounts.steps p hp⟩
  obtain ⟨hattributed, hnone⟩ := ScanStep.attributed_of_logged hlogged
  have hannounced : ((d.passes store).flatMap (·.2.log) ++
      [(d.scan store).report.event]).filter (·.isDiagnostic) =
        (d.scan store).messages.map Message.event := by
    rw [List.filter_append, ScanStep.announced_of_logged hlogged, ← haccounts.messages]
    exact List.append_nil _
  rw [hsteps]
  exact {
    steps := rfl
    logged := hlogged
    visited := haccounts.visited
    announced := hannounced
    severities := by rw [hannounced, List.map_map]; rfl
    outcomes := by
      rw [List.filter_append, List.length_append, ScanStep.outcomes_of_logged hlogged,
        haccounts.visited]
      rfl
    levels := by
      intro e he
      rcases List.mem_append.mp he with hstep | hreport
      · obtain ⟨p, hp, hlog⟩ := List.mem_flatMap.mp hstep
        exact (hlogged p hp).levels e hlog
      · rw [List.mem_singleton.mp hreport]
        exact ⟨nofun, nofun⟩
    attributed := by
      intro front segment outcome after hlog houtcome hfront hsegment
      have hall : Event.Attributed false (front ++ segment ++ outcome :: after) := by
        rw [← hlog, Event.attributed_append, hnone]
        exact ⟨hattributed, nofun, trivial⟩
      exact hall.isExclusion_iff houtcome hfront hsegment
    report := List.getLast?_concat
    registered := by
      rw [List.countP_append, haccounts.registered, hregistered]
      rfl
    excluded := by
      rw [List.countP_append, haccounts.excluded, hexcluded]
      rfl }

/-- A tracing sink is faithful. The sink behind it keeps what it keeps without it, whatever it
does with the messages, and the plan and the report are the same. If that sink reports nothing
itself, the events are the log of the scan. -/
theorem isLog_scanInto_tracing (d : Declarations) (store : Store Annotation) :
    (∀ (σ : Type) (inner : Sink σ) (kept : σ),
      let traced := d.scanInto inner.tracing store kept
      let plain := d.scanInto inner store kept
      traced.kept = plain.kept ∧ traced.plan = plain.plan ∧ traced.report = plain.report ∧
        traced.store = plain.store) ∧
    ∀ (σ : Type) (receive : σ → Message → σ) (kept : σ),
      let traced := d.scanInto (Sink.silent receive).tracing store kept
      traced.kept = (d.scan store).messages.foldl receive kept ∧
        traced.report = (d.scan store).report ∧ d.IsLog store traced.events := by
  constructor
  · intro σ inner kept
    simp only [scanInto_eq_scan, inner.feed_tracing_fst, and_self]
  · intro σ receive kept
    rw [d.scanInto_tracing store receive kept]
    exact ⟨rfl, rfl, d.isLog_announced store⟩

end Declarations

end Contracts
