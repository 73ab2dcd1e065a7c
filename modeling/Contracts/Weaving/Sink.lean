import Contracts.Weaving.Scan

/-!
# Sinks

Messages go to a sink as they are written. A sink keeps what it wants of them, and it may report
events. Sinks stand before one another: a tracing sink announces every message by an event before
it hands it on, and a counting sink counts the errors that pass. A scan into a sink puts a
counting sink before it at every site, and what that has counted decides whether the validator is
admitted.
-/

namespace Contracts

/-- What takes messages one by one. -/
structure Sink (σ : Type) where
  /-- Take a message: what the sink keeps afterwards, and the events that it reports. -/
  write : σ → Message → σ × List Event

namespace Sink

variable {σ : Type}

/-- A sink that reports nothing. -/
def silent (receive : σ → Message → σ) : Sink σ where
  write kept m := (receive kept m, [])

/-- A sink that keeps the messages in order. -/
def collecting : Sink (List Message) := silent fun kept m => kept ++ [m]

/-- Announce every message by an event before it is handed on. -/
def tracing (inner : Sink σ) : Sink σ where
  write kept m :=
    let (kept, events) := inner.write kept m
    (kept, m.event :: events)

/-- Count the errors among the messages that are handed on. -/
def counting (inner : Sink σ) : Sink (σ × Nat) where
  write kept m :=
    let errors := if m.isError then kept.2 + 1 else kept.2
    let (kept, events) := inner.write kept.1 m
    ((kept, errors), events)

/-- Write the messages of a trace to a sink: what it keeps, and all events in order. -/
def feed (sink : Sink σ) (kept : σ) : Trace → σ × List Event
  | [] => (kept, [])
  | .event e :: rest =>
    let (kept, events) := sink.feed kept rest
    (kept, e :: events)
  | .message m :: rest =>
    let (kept, events) := sink.write kept m
    let (kept, more) := sink.feed kept rest
    (kept, events ++ more)

end Sink

variable {V σ : Type} [Validator V]

/-- What checks of a validator did, with their messages in a sink. -/
structure CheckedInto (V σ : Type) where
  admitted : Bool
  /-- The validators afterwards. -/
  store : Store V
  /-- What the sink keeps. -/
  kept : σ
  events : List Event

/-- What a part of a scan did, with its messages in a sink. -/
structure PassInto (V σ : Type) where
  /-- The validators afterwards. -/
  store : Store V
  /-- What the sink keeps. -/
  kept : σ
  events : List Event
  plan : WeavePlan
  registered : Nat
  excluded : Nat

/-- The result of a scan, with its messages in a sink. -/
structure ScanInto (V σ : Type) where
  /-- The validators afterwards. -/
  store : Store V
  /-- What the sink keeps. -/
  kept : σ
  events : List Event
  plan : WeavePlan
  report : ScanReport

namespace Visit

/-- Check a validator at a site. It is admitted if no error passes on the way to the sink. -/
def admitInto (sink : Sink σ) (id : Nat) (c : Catalogue) (store : Store V) (kept : σ)
    (site : Site) : CheckedInto V σ :=
  let (trace, v) := Validator.selfCheck (store id) site c
  let ((kept, errors), events) := sink.counting.feed (kept, 0) (site.unknownType c ++ trace)
  { admitted := errors == 0, store := store.set id v, kept, events }

/-- Check a validator at sites in order. It is admitted if it is at all of them. -/
def checkInto (sink : Sink σ) (id : Nat) (c : Catalogue) (store : Store V) (kept : σ) :
    List Site → CheckedInto V σ
  | [] => { admitted := true, store, kept, events := [] }
  | site :: rest =>
    let here := admitInto sink id c store kept site
    let later := checkInto sink id c here.store here.kept rest
    { admitted := here.admitted && later.admitted
      store := later.store
      kept := later.kept
      events := here.events ++ later.events }

/-- Check the validator of a visit, and register or exclude it. -/
def runInto (v : Visit) (sink : Sink σ) (c : Catalogue) (store : Store V) (kept : σ) :
    PassInto V σ :=
  let checked := checkInto sink v.validator c store kept v.checked
  { store := checked.store
    kept := checked.kept
    events := checked.events ++ [v.outcome checked.store checked.admitted]
    plan := if checked.admitted then v.advice.map (⟨·, v.validator⟩) else []
    registered := if checked.admitted then 1 else 0
    excluded := if checked.admitted then 0 else 1 }

end Visit

namespace ScanStep

/-- Take a step. -/
def runInto (step : ScanStep) (sink : Sink σ) (c : Catalogue) (store : Store V) (kept : σ) :
    PassInto V σ :=
  match step with
  | .visit v => v.runInto sink c store kept
  | .skip type property validators =>
    let (kept, events) := sink.feed kept (skipped type property validators)
    { store, kept, events, plan := [], registered := 0, excluded := 0 }

/-- Take steps in order. -/
def runAllInto (sink : Sink σ) (c : Catalogue) (store : Store V) (kept : σ) :
    List ScanStep → PassInto V σ
  | [] => { store, kept, events := [], plan := [], registered := 0, excluded := 0 }
  | step :: rest =>
    let here := step.runInto sink c store kept
    let after := runAllInto sink c here.store here.kept rest
    { store := after.store
      kept := after.kept
      events := here.events ++ after.events
      plan := here.plan ++ after.plan
      registered := here.registered + after.registered
      excluded := here.excluded + after.excluded }

end ScanStep

/-- Scan declarations, with all messages written to a sink. -/
def Declarations.scanInto (d : Declarations) (sink : Sink σ) (store : Store V) (kept : σ) :
    ScanInto V σ :=
  let pass := ScanStep.runAllInto sink d.catalogue store kept d.steps
  let report : ScanReport :=
    ⟨d.methods.length, d.properties.length, pass.registered, pass.excluded⟩
  { store := pass.store
    kept := pass.kept
    events := pass.events ++ [report.event]
    plan := pass.plan
    report }

end Contracts
