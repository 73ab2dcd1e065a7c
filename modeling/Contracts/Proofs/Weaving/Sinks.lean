import Contracts.Command.Run
import Contracts.Weaving.Sink

/-!
# Scans into sinks

A scan into a sink does what a scan does that only keeps a trace, whatever the sink does with the
messages: it leaves the same validators, plan and report behind, and the sink has been fed the
trace. So a sink that stands before another and hands on what it takes changes nothing but the
events.
-/

namespace Contracts

namespace Trace

variable (m : Message) (e : Event) (t : Trace)

@[simp] theorem messages_nil : messages [] = [] := rfl

@[simp] theorem messages_message : messages (.message m :: t) = m :: messages t := rfl

@[simp] theorem messages_event : messages (.event e :: t) = messages t := rfl

@[simp] theorem events_nil : events [] = [] := rfl

@[simp] theorem events_message : events (.message m :: t) = events t := rfl

@[simp] theorem events_event : events (.event e :: t) = e :: events t := rfl

@[simp] theorem announced_nil : announced [] = [] := rfl

@[simp] theorem announced_message :
    announced (.message m :: t) = .event m.event :: .message m :: announced t := rfl

@[simp] theorem announced_event : announced (.event e :: t) = .event e :: announced t := rfl

@[simp] theorem announced_append (s t : Trace) : announced (s ++ t) = announced s ++ announced t :=
  List.flatMap_append

/-- Traces one after the other have an error if one of them has. -/
theorem hasError_append (s t : Trace) : hasError (s ++ t) = (hasError s || hasError t) := by
  simp [hasError]

end Trace

namespace Sink

variable {σ : Type} (sink : Sink σ)

/-- Traces one after the other are written to a sink one after the other. -/
theorem feed_append (kept : σ) (s t : Trace) :
    sink.feed kept (s ++ t) =
      let first := sink.feed kept s
      let second := sink.feed first.1 t
      (second.1, first.2 ++ second.2) := by
  induction s generalizing kept with
  | nil => rfl
  | cons entry rest ih => cases entry <;> simp [feed, ih]

/-- A counting sink hands everything on, and its count grows by the errors that pass. -/
theorem feed_counting (kept : σ) (errors : Nat) (t : Trace) :
    sink.counting.feed (kept, errors) t =
      (((sink.feed kept t).1, errors + t.messages.countP (·.isError)), (sink.feed kept t).2) := by
  induction t generalizing kept errors with
  | nil => rfl
  | cons entry rest ih =>
    cases entry with
    | event e => simp [feed, ih]
    | message m =>
      have hwrite : sink.counting.write (kept, errors) m =
          (((sink.write kept m).1, if m.isError then errors + 1 else errors),
            (sink.write kept m).2) := rfl
      cases herror : m.isError <;>
        simp [feed, hwrite, ih, herror, Nat.add_assoc, Nat.add_comm]

/-- A tracing sink before one that reports nothing hands the messages on in order, and the events
are those of the trace with every message announced. -/
theorem feed_tracing_silent (receive : σ → Message → σ) (kept : σ) (t : Trace) :
    (silent receive).tracing.feed kept t = (t.messages.foldl receive kept, t.announced.events) := by
  induction t generalizing kept with
  | nil => rfl
  | cons entry rest ih =>
    cases entry with
    | event e => simp [feed, ih]
    | message m =>
      have hwrite : (silent receive).tracing.write kept m = (receive kept m, [m.event]) := rfl
      simp [feed, hwrite, ih]

/-- The sink behind a tracing one keeps what it keeps without it. -/
theorem feed_tracing_fst (inner : Sink σ) (kept : σ) (t : Trace) :
    (inner.tracing.feed kept t).1 = (inner.feed kept t).1 := by
  induction t generalizing kept with
  | nil => rfl
  | cons entry rest ih =>
    cases entry with
    | event e => exact ih kept
    | message m => exact ih (inner.write kept m).1

/-- A collecting sink keeps the messages. -/
theorem foldl_collect (kept messages : List Message) :
    messages.foldl (fun kept m => kept ++ [m]) kept = kept ++ messages := by
  induction messages generalizing kept with
  | nil => simp
  | cons m rest ih => simp [ih]

end Sink

variable {V σ : Type} [Validator V]

namespace Visit

/-- The check at a site writes what the self-check writes, and admits the validator if that has no
error. -/
theorem admitInto_eq (sink : Sink σ) (id : Nat) (c : Catalogue) (store : Store V) (kept : σ)
    (site : Site) :
    admitInto sink id c store kept site =
      let checked := Validator.selfCheck (store id) site c
      let written := site.unknownType c ++ checked.1
      ⟨!written.hasError, store.set id checked.2, (sink.feed kept written).1,
        (sink.feed kept written).2⟩ := by
  have hcount (messages : List Message) :
      (messages.countP (·.isError) == 0) = !messages.any (·.isError) := by
    rw [Bool.eq_iff_iff]
    simp [List.countP_eq_zero]
  simp only [admitInto, sink.feed_counting, Nat.zero_add, hcount, Trace.hasError]

/-- Checks that follow each other write to the sink one after the other, and admit the validator if
all that they write has no error. -/
theorem checkInto_eq_checkAt (sink : Sink σ) (id : Nat) (c : Catalogue) (store : Store V) (kept : σ)
    (sites : List Site) :
    checkInto sink id c store kept sites =
      let checked := checkAt id c store sites
      let fed := sink.feed kept checked.1
      ⟨!checked.1.hasError, checked.2, fed.1, fed.2⟩ := by
  induction sites generalizing store kept with
  | nil => rfl
  | cons site rest ih =>
    simp only [checkInto, checkAt, admitInto_eq, ih, sink.feed_append, Trace.hasError_append,
      Bool.not_or]

/-- A visit into a sink is the visit, with its trace written to the sink. -/
theorem runInto_eq_run (v : Visit) (sink : Sink σ) (c : Catalogue) (store : Store V) (kept : σ) :
    v.runInto sink c store kept =
      let pass := v.run c store
      let fed := sink.feed kept pass.trace
      ⟨pass.store, fed.1, fed.2, pass.plan, pass.registered, pass.excluded⟩ := by
  simp only [runInto, run, checkInto_eq_checkAt, sink.feed_append, Sink.feed]

end Visit

namespace ScanStep

/-- A step into a sink is the step, with its trace written to the sink. -/
theorem runInto_eq_run (step : ScanStep) (sink : Sink σ) (c : Catalogue) (store : Store V)
    (kept : σ) :
    step.runInto sink c store kept =
      let pass := step.run c store
      let fed := sink.feed kept pass.trace
      ⟨pass.store, fed.1, fed.2, pass.plan, pass.registered, pass.excluded⟩ := by
  cases step with
  | visit v => exact v.runInto_eq_run sink c store kept
  | skip type property validators => rfl

/-- Steps into a sink are the steps, with all their traces written to the sink. -/
theorem runAllInto_eq_runAll (sink : Sink σ) (c : Catalogue) (store : Store V) (kept : σ)
    (steps : List ScanStep) :
    runAllInto sink c store kept steps =
      let pass := runAll c store steps
      let fed := sink.feed kept pass.trace
      ⟨pass.store, fed.1, fed.2, pass.plan, pass.registered, pass.excluded⟩ := by
  induction steps generalizing store kept with
  | nil => rfl
  | cons step rest ih => simp only [runAllInto, runAll, runInto_eq_run, ih, sink.feed_append]

end ScanStep

namespace Declarations

/-- A scan into a sink is the scan, with its trace written to the sink. -/
theorem scanInto_eq_scan (d : Declarations) (sink : Sink σ) (store : Store V) (kept : σ) :
    d.scanInto sink store kept =
      let scan := d.scan store
      let fed := sink.feed kept scan.trace
      ⟨scan.store, fed.1, fed.2, scan.plan, scan.report⟩ := by
  simp only [scanInto, scan, ScanStep.runAllInto_eq_runAll, sink.feed_append, Sink.feed]

/-- Behind a tracing sink, the messages of a scan are received in order and all are announced. -/
theorem scanInto_tracing (d : Declarations) (store : Store V) (receive : σ → Message → σ)
    (kept : σ) :
    d.scanInto (Sink.silent receive).tracing store kept =
      let scan := d.scan store
      ⟨scan.store, scan.messages.foldl receive kept, scan.trace.announced.events, scan.plan,
        scan.report⟩ := by
  simp only [scanInto_eq_scan, Sink.feed_tracing_silent, Scan.messages]

end Declarations

/-- A manifest is woven by a scan into a collecting sink behind a tracing one. -/
theorem Command.weave_eq_scanInto {read : FileReader} {path : String} {m : Manifest}
    (h : Manifest.load read path = .ok m) :
    let scan := m.declarations.scanInto Sink.collecting.tracing m.store []
    (weave read path).events = m.loadedEvent path :: scan.events ∧
      (weave read path).result.map (fun woven => (woven.messages, woven.plan, woven.report)) =
        .ok (scan.kept, scan.plan, scan.report) := by
  have hkept (messages : List Message) :
      messages.foldl (fun kept m => kept ++ [m]) [] = messages :=
    Sink.foldl_collect [] messages
  constructor
  · simp only [weave, h, Sink.collecting, Declarations.scanInto_tracing]
  · simp only [weave, h, Sink.collecting, Declarations.scanInto_tracing, hkept]
    rfl

end Contracts
