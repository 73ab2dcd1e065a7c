import Contracts.Weaving.Plan

/-!
# Scanning declarations

A scan visits every validator on a parameter, on a method and on a writable property, in this
order and in the order of declaration. It checks the validator at its sites. A validator without
an error is registered in the plan, any other is excluded, and the scan goes on. A validator on a
method is checked at each of its parameters and guards all of them; a validator on a read-only
property is not visited at all, and the property gets a warning.
-/

namespace Contracts

/-- The declarations of a module, which refer to their validators by number. -/
structure Declarations where
  catalogue : Catalogue
  methods : List (MethodDecl Nat) := []
  properties : List (PropertyDecl Nat) := []

/-- A validator that is to be checked, and what is registered if it passes. -/
structure Visit where
  validator : Nat
  /-- The site that the outcome is recorded for. -/
  site : Site
  /-- The sites at which the validator is checked. -/
  checked : List Site
  /-- Where the validator runs if it passes. -/
  advice : List JoinPoint
  deriving DecidableEq

/-- A step of a scan. -/
inductive ScanStep where
  | visit (v : Visit)
  /-- Pass over the validators of a read-only property. -/
  | skip (type property : String) (validators : Nat)
  deriving DecidableEq

/-- The site of a parameter. -/
def Site.ofParameter (method : MethodRef) (p : ParameterRef × ParameterDecl Nat) : Site :=
  .parameter method p.1 p.2.type

/-- The parameters of a method with their references. -/
def MethodDecl.numbered (m : MethodDecl Nat) : List (ParameterRef × ParameterDecl Nat) :=
  m.reference.parameters.zip m.parameters

/-- The visits of a parameter. -/
def Visit.ofParameter (method : MethodRef) (p : ParameterRef × ParameterDecl Nat) : List Visit :=
  let site := Site.ofParameter method p
  (Attribute.validators p.2.attributes).map fun id =>
    ⟨id, site, [site], [.methodBody method (some [p.1])]⟩

/-- The sites at which a validator on a method as a whole is checked: all parameters, or the method
itself if it has none. -/
def MethodDecl.sites (m : MethodDecl Nat) : List Site :=
  if m.parameters.isEmpty then [.method m.reference]
  else m.numbered.map (Site.ofParameter m.reference)

/-- The sites of a method with parameters are those of its parameters. -/
theorem MethodDecl.sites_of_parameters {m : MethodDecl Nat} (h : m.parameters ≠ []) :
    m.sites = m.numbered.map (Site.ofParameter m.reference) := by
  unfold sites
  rw [if_neg (by simpa using h)]

/-- A method without parameters is its own site. -/
theorem MethodDecl.sites_of_no_parameters {m : MethodDecl Nat} (h : m.parameters = []) :
    m.sites = [.method m.reference] := by
  unfold sites
  rw [if_pos (by simpa using h)]

/-- The visits of a method as a whole. -/
def Visit.ofWhole (m : MethodDecl Nat) : List Visit :=
  let method := m.reference
  (Attribute.validators m.attributes).map fun id =>
    ⟨id, .method method, m.sites,
      [.methodBody method none, .staticInitializer m.declaringType]⟩

/-- The visits of a method and its parameters. -/
def Visit.ofMethod (m : MethodDecl Nat) : List Visit :=
  m.numbered.flatMap (Visit.ofParameter m.reference) ++ Visit.ofWhole m

/-- The steps of a property. -/
def ScanStep.ofProperty (p : PropertyDecl Nat) : List ScanStep :=
  let validators := Attribute.validators p.attributes
  match p.setter? with
  | some setter =>
    let site := Site.setter setter p.name p.type
    validators.map fun id =>
      .visit ⟨id, site, [site], [.methodBody setter (some setter.parameters)]⟩
  | none =>
    if validators.isEmpty then [] else [.skip p.declaringType p.name validators.length]

/-- The steps of a scan. -/
def Declarations.steps (d : Declarations) : List ScanStep :=
  (d.methods.flatMap Visit.ofMethod).map .visit ++ d.properties.flatMap ScanStep.ofProperty

/-- What a scan counted. -/
structure ScanReport where
  methods : Nat
  properties : Nat
  registered : Nat
  excluded : Nat
  deriving DecidableEq

/-- What a part of a scan did. -/
structure Pass (V : Type) where
  /-- The validators afterwards. -/
  store : Store V
  trace : Trace
  plan : WeavePlan
  registered : Nat
  excluded : Nat

variable {V : Type} [Validator V]

/-- Where the messages and events of a scan come from. -/
def scanSource : String := "warden_weave::advisor"

/-- The message on a site whose type is not declared. -/
def Site.unknownType (site : Site) (c : Catalogue) : Trace :=
  match site.declaredType? with
  | none => []
  | some type =>
    if (c.decl? type).isSome then []
    else
      [.message ⟨.error, "scan.unknown_type",
        "The type '" ++ type ++ "' of " ++ site.display ++ " is not declared.", scanSource⟩]

namespace Visit

/-- Check a validator at sites in order: what happened, and the store afterwards. -/
def checkAt (id : Nat) (c : Catalogue) (store : Store V) : List Site → Trace × Store V
  | [] => ([], store)
  | site :: rest =>
    let (trace, v) := Validator.selfCheck (store id) site c
    let (more, store) := checkAt id c (store.set id v) rest
    (site.unknownType c ++ trace ++ more, store)

/-- The event of a visit's outcome. -/
def outcome (v : Visit) (store : Store V) (admitted : Bool) : Event :=
  let fields := [("site", .text v.site.display),
    ("validator", .text (Validator.describe (store v.validator)))]
  if admitted then ⟨.debug, scanSource, "registered advice", fields⟩
  else ⟨.warn, scanSource, "excluded from weaving", fields⟩

/-- Check the validator of a visit, and register or exclude it. -/
def run (v : Visit) (c : Catalogue) (store : Store V) : Pass V :=
  let (trace, store) := checkAt v.validator c store v.checked
  let admitted := !trace.hasError
  { store
    trace := trace ++ [.event (v.outcome store admitted)]
    plan := if admitted then v.advice.map (⟨·, v.validator⟩) else []
    registered := if admitted then 1 else 0
    excluded := if admitted then 0 else 1 }

end Visit

namespace ScanStep

/-- What passing over a read-only property leaves in the trace. -/
def skipped (type property : String) (validators : Nat) : Trace :=
  [.event ⟨.debug, scanSource, "skipping validators on read-only property",
      [("property", .text property), ("declaring_type", .text type),
        ("skipped", .count validators)]⟩,
    .message ⟨.warning, "scan.read_only_property",
      "The property '" ++ type ++ "::" ++ property ++ "' has no setter; its " ++
        toString validators ++ " validator(s) are not woven.", scanSource⟩]

/-- Take a step. -/
def run (step : ScanStep) (c : Catalogue) (store : Store V) : Pass V :=
  match step with
  | .visit v => v.run c store
  | .skip type property validators => ⟨store, skipped type property validators, [], 0, 0⟩

/-- Take steps in order. -/
def runAll (c : Catalogue) (store : Store V) : List ScanStep → Pass V
  | [] => ⟨store, [], [], 0, 0⟩
  | step :: rest =>
    let here := step.run c store
    let after := runAll c here.store rest
    { store := after.store
      trace := here.trace ++ after.trace
      plan := here.plan ++ after.plan
      registered := here.registered + after.registered
      excluded := here.excluded + after.excluded }

end ScanStep

/-- The result of a scan. -/
structure Scan (V : Type) where
  /-- The validators afterwards. -/
  store : Store V
  trace : Trace
  plan : WeavePlan
  report : ScanReport

/-- The event at the end of a scan. -/
def ScanReport.event (r : ScanReport) : Event :=
  ⟨.info, scanSource, "scan complete",
    [("methods", .count r.methods), ("properties", .count r.properties),
      ("registered", .count r.registered), ("excluded", .count r.excluded)]⟩

/-- Scan declarations. -/
def Declarations.scan (d : Declarations) (store : Store V) : Scan V :=
  let pass := ScanStep.runAll d.catalogue store d.steps
  let report : ScanReport :=
    ⟨d.methods.length, d.properties.length, pass.registered, pass.excluded⟩
  { store := pass.store
    trace := pass.trace ++ [.event report.event]
    plan := pass.plan
    report }

namespace Scan

/-- The messages that the scan wrote. -/
def messages (s : Scan V) : List Message := s.trace.messages

end Scan

end Contracts
