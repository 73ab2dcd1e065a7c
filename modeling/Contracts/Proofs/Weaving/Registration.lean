import Contracts.Weaving.Scan

/-!
# What a scan registers

A scan is compared with a walk through the declarations, loop within loop, that only marks each
validator with whether its checks wrote an error. The plan follows from the marked declarations
alone: it holds the units of the admitted validators in the order of the walk, and nothing else.
-/

namespace Contracts

variable {V : Type} {α β : Type}

/-- Items that contribute under a condition contribute what those that meet it do. -/
theorem flatMap_ite_nil (items : List α) (f : α → List β) (p : α → Bool) :
    (items.flatMap fun a => if p a then f a else []) = (items.filter p).flatMap f := by
  induction items with
  | nil => rfl
  | cons a rest ih =>
    rw [List.flatMap_cons, ih]
    cases h : p a with
    | true => rw [List.filter_cons_of_pos h, List.flatMap_cons, if_pos rfl]
    | false => rw [List.filter_cons_of_neg (by simp [h])]; rfl

/-- Map a list from left to right while a store is handed on from item to item. -/
def Store.thread (f : α → Store V → β × Store V) (store : Store V) : List α → List β × Store V
  | [] => ([], store)
  | a :: rest =>
    let here := f a store
    let after := thread f here.2 rest
    (here.1 :: after.1, after.2)

/-- What can be read off every result of a walk without the store is a map of the items. -/
theorem Store.map_thread {γ : Type} (f : α → Store V → β × Store V) (g : β → γ) (h : α → γ)
    (hf : ∀ a store, g (f a store).1 = h a) (store : Store V) (items : List α) :
    (Store.thread f store items).1.map g = items.map h := by
  induction items generalizing store with
  | nil => rfl
  | cons a rest ih => simp only [thread, List.map_cons, hf, ih]

variable [Validator V]

namespace Attribute

/-- Replace the validator of an attribute. -/
def map (f : α → β) : Attribute α → Attribute β
  | .validator v => .validator (f v)
  | .other name => .other name

/-- Check a validator at sites, and mark it with whether the checks wrote no error. -/
def mark (c : Catalogue) (sites : List Site) (a : Attribute Nat) (store : Store V) :
    Attribute (Nat × Bool) × Store V :=
  match a with
  | .other name => (.other name, store)
  | .validator id =>
    let checked := Visit.checkAt id c store sites
    (.validator (id, !checked.1.hasError), checked.2)

/-- Marking an attribute keeps the attribute. -/
theorem map_fst_mark (c : Catalogue) (sites : List Site) (a : Attribute Nat) (store : Store V) :
    (mark c sites a store).1.map Prod.fst = a := by
  cases a with
  | other name => rfl
  | validator id => rfl

/-- Giving all validators of attributes the same mark keeps the attributes. -/
theorem map_fst_comp_map (mark : Bool) :
    Attribute.map Prod.fst ∘ Attribute.map (·, mark) = @id (Attribute α) := by
  funext a
  cases a with
  | other name => rfl
  | validator v => rfl

/-- The admitted validators among marked attributes. -/
def admitted (attributes : List (Attribute (Nat × Bool))) : List Nat :=
  (validators attributes).filterMap fun mark => if mark.2 then some mark.1 else none

/-- A validator stands before those of the attributes that follow. -/
@[simp] theorem validators_validator (v : α) (rest : List (Attribute α)) :
    validators (.validator v :: rest) = v :: validators rest := rfl

end Attribute

/-- Replace the validators of a parameter. -/
def ParameterDecl.map (f : α → β) (p : ParameterDecl α) : ParameterDecl β :=
  ⟨p.name, p.type, p.attributes.map (Attribute.map f)⟩

/-- Mark the validators of a parameter, each checked at the parameter. -/
def ParameterDecl.mark (c : Catalogue) (method : MethodRef) (p : ParameterRef × ParameterDecl Nat)
    (store : Store V) : ParameterDecl (Nat × Bool) × Store V :=
  let marked := Store.thread (Attribute.mark c [Site.ofParameter method p]) store p.2.attributes
  (⟨p.2.name, p.2.type, marked.1⟩, marked.2)

/-- Marking a parameter keeps the parameter. -/
theorem ParameterDecl.map_fst_mark (c : Catalogue) (method : MethodRef)
    (p : ParameterRef × ParameterDecl Nat) (store : Store V) :
    (mark c method p store).1.map Prod.fst = p.2 := by
  obtain ⟨ref, name, type, attributes⟩ := p
  have hattributes := Store.map_thread _ _ id
    (Attribute.map_fst_mark c [Site.ofParameter method (ref, ⟨name, type, attributes⟩)])
    store attributes
  simp only [List.map_id] at hattributes
  simp only [mark, ParameterDecl.map, hattributes]

/-- The units of a marked parameter at a position: one for each admitted validator, covering this
parameter only. -/
def ParameterDecl.units (method : MethodRef) (position : Nat) (p : ParameterDecl (Nat × Bool)) :
    WeavePlan :=
  (Attribute.admitted p.attributes).map fun id =>
    ⟨.methodBody method (some [⟨position, p.name⟩]), id⟩

/-- Numbering keeps the number of parameters. -/
theorem ParameterRef.length_number (start : Nat) (names : List String) :
    (number start names).length = names.length := by
  induction names generalizing start with
  | nil => rfl
  | cons name rest ih => simp [number, ih]

namespace MethodDecl

/-- Replace the validators of a method. -/
def map (f : α → β) (m : MethodDecl α) : MethodDecl β :=
  ⟨m.name, m.declaringType, m.parameters.map (ParameterDecl.map f),
    m.attributes.map (Attribute.map f)⟩

/-- Mark the validators of a method, those of its parameters first. -/
def mark (c : Catalogue) (m : MethodDecl Nat) (store : Store V) :
    MethodDecl (Nat × Bool) × Store V :=
  let parameters := Store.thread (ParameterDecl.mark c m.reference) store m.numbered
  let attributes := Store.thread (Attribute.mark c m.sites) parameters.2 m.attributes
  (⟨m.name, m.declaringType, parameters.1, attributes.1⟩, attributes.2)

/-- The numbered parameters of a method are its parameters. -/
theorem map_snd_numbered (m : MethodDecl Nat) : m.numbered.map Prod.snd = m.parameters :=
  List.map_snd_zip (by simp [reference, ParameterRef.length_number])

/-- Marking a method keeps the method. -/
theorem map_fst_mark (c : Catalogue) (m : MethodDecl Nat) (store : Store V) :
    (mark c m store).1.map Prod.fst = m := by
  have hparameters := Store.map_thread _ _ Prod.snd (ParameterDecl.map_fst_mark c m.reference)
    store m.numbered
  have hattributes := Store.map_thread _ _ id (Attribute.map_fst_mark c m.sites)
    (Store.thread (ParameterDecl.mark c m.reference) store m.numbered).2 m.attributes
  rw [map_snd_numbered] at hparameters
  rw [List.map_id] at hattributes
  simp only [mark, map, hparameters, hattributes]

/-- Replacing validators keeps the reference to a method. -/
theorem reference_map (f : α → β) (m : MethodDecl α) : (m.map f).reference = m.reference := by
  simp only [reference, map, List.map_map]
  rfl

/-- Marking a method keeps the reference to it. -/
theorem reference_mark (c : Catalogue) (m : MethodDecl Nat) (store : Store V) :
    (mark c m store).1.reference = m.reference := by
  rw [← reference_map Prod.fst, map_fst_mark]

/-- The units of a marked method: those of its parameters from left to right, and then two for each
admitted validator of the method, before the body for the whole call and before the static
initializer of the declaring type. -/
def units (m : MethodDecl (Nat × Bool)) : WeavePlan :=
  (m.parameters.zipIdx.flatMap fun (p, position) => p.units m.reference position) ++
    (Attribute.admitted m.attributes).flatMap fun id =>
      [⟨.methodBody m.reference none, id⟩, ⟨.staticInitializer m.declaringType, id⟩]

end MethodDecl

namespace PropertyDecl

/-- Replace the validators of a property. -/
def map (f : α → β) (p : PropertyDecl α) : PropertyDecl β :=
  ⟨p.name, p.declaringType, p.type, p.writable, p.attributes.map (Attribute.map f)⟩

/-- Mark the validators of a property, each checked at its setter; those of a read-only property
are not checked and not admitted. -/
def mark (c : Catalogue) (p : PropertyDecl Nat) (store : Store V) :
    PropertyDecl (Nat × Bool) × Store V :=
  if p.writable then
    let marked := Store.thread (Attribute.mark c [.setter p.setterRef p.name p.type]) store
      p.attributes
    (⟨p.name, p.declaringType, p.type, true, marked.1⟩, marked.2)
  else (p.map (·, false), store)

/-- Marking a property keeps the property. -/
theorem map_fst_mark (c : Catalogue) (p : PropertyDecl Nat) (store : Store V) :
    (mark c p store).1.map Prod.fst = p := by
  obtain ⟨name, declaringType, type, writable, attributes⟩ := p
  cases writable with
  | true =>
    have hattributes := Store.map_thread _ _ id (Attribute.map_fst_mark c
      [.setter ⟨declaringType, "set_" ++ name, [.setterValue]⟩ name type]) store attributes
    rw [List.map_id] at hattributes
    exact congrArg (PropertyDecl.mk name declaringType type true) hattributes
  | false =>
    have hattributes : (attributes.map (Attribute.map (·, false))).map (Attribute.map Prod.fst) =
        attributes := by
      rw [List.map_map, Attribute.map_fst_comp_map, List.map_id]
    exact congrArg (PropertyDecl.mk name declaringType type false) hattributes

/-- The units of a marked property: one for each admitted validator, covering the new value, and
none if the property is read-only. -/
def units (p : PropertyDecl (Nat × Bool)) : WeavePlan :=
  if p.writable then
    (Attribute.admitted p.attributes).map fun id =>
      ⟨.methodBody ⟨p.declaringType, "set_" ++ p.name, [⟨0, "value"⟩]⟩ (some [⟨0, "value"⟩]), id⟩
  else []

end PropertyDecl

/-- Declarations whose validators are marked with whether they are admitted. -/
structure Admission (V : Type) where
  methods : List (MethodDecl (Nat × Bool))
  properties : List (PropertyDecl (Nat × Bool))
  /-- The validators after all checks. -/
  store : Store V

/-- Mark all validators, those of methods first. -/
def Declarations.mark (d : Declarations) (store : Store V) : Admission V :=
  let methods := Store.thread (MethodDecl.mark d.catalogue) store d.methods
  let properties := Store.thread (PropertyDecl.mark d.catalogue) methods.2 d.properties
  ⟨methods.1, properties.1, properties.2⟩

namespace ScanStep

/-- What steps add to the plan and what they leave in the store. -/
def planAll (c : Catalogue) (store : Store V) (steps : List ScanStep) : WeavePlan × Store V :=
  ((runAll c store steps).plan, (runAll c store steps).store)

/-- A first step adds its units before those of the rest. -/
theorem planAll_cons (c : Catalogue) (store : Store V) (step : ScanStep) (rest : List ScanStep) :
    planAll c store (step :: rest) =
      let here := step.run c store
      let after := planAll c here.store rest
      (here.plan ++ after.1, after.2) := rfl

/-- Steps that follow each other add their units behind each other. -/
theorem planAll_append (c : Catalogue) (store : Store V) (steps more : List ScanStep) :
    planAll c store (steps ++ more) =
      let here := planAll c store steps
      let after := planAll c here.2 more
      (here.1 ++ after.1, after.2) := by
  induction steps generalizing store with
  | nil => rfl
  | cons step rest ih =>
    rw [List.cons_append, planAll_cons, planAll_cons]
    dsimp only
    rw [ih]
    simp only [List.append_assoc]

/-- If steps of items do what a walk over the items says, so do the steps of a list of items. -/
theorem planAll_flatMap (c : Catalogue) (store : Store V) (f : α → Store V → β × Store V)
    (steps : α → List ScanStep) (units : β → WeavePlan)
    (h : ∀ a store, planAll c store (steps a) = (units (f a store).1, (f a store).2))
    (items : List α) :
    planAll c store (items.flatMap steps) =
      ((Store.thread f store items).1.flatMap units, (Store.thread f store items).2) := by
  induction items generalizing store with
  | nil => rfl
  | cons a rest ih =>
    rw [List.flatMap_cons, planAll_append, h]
    dsimp only
    rw [ih]
    rfl

/-- The visits of attributes at sites register the advice of the admitted validators. -/
theorem planAll_attributes (c : Catalogue) (site : Site) (sites : List Site)
    (advice : List JoinPoint) (attributes : List (Attribute Nat)) (store : Store V) :
    planAll c store ((Attribute.validators attributes).map fun id =>
        .visit ⟨id, site, sites, advice⟩) =
      let marked := Store.thread (Attribute.mark c sites) store attributes
      ((Attribute.admitted marked.1).flatMap fun id => advice.map (⟨·, id⟩), marked.2) := by
  induction attributes generalizing store with
  | nil => rfl
  | cons a rest ih =>
    cases a with
    | other name => exact ih store
    | validator id =>
      rw [Attribute.validators_validator, List.map_cons, planAll_cons]
      dsimp only [ScanStep.run, Visit.run, Store.thread, Attribute.mark]
      rw [ih]
      cases hchecked : (Visit.checkAt id c store sites).1.hasError with
      | true => simp [Attribute.admitted]
      | false => simp [Attribute.admitted]

/-- The visits of a parameter register its units. -/
theorem planAll_parameter (c : Catalogue) (method : MethodRef) (position : Nat)
    (p : ParameterDecl Nat) (store : Store V) :
    planAll c store ((Visit.ofParameter method (⟨position, p.name⟩, p)).map .visit) =
      let marked := ParameterDecl.mark c method (⟨position, p.name⟩, p) store
      (marked.1.units method position, marked.2) := by
  rw [Visit.ofParameter, List.map_map]
  change planAll c store ((Attribute.validators p.attributes).map fun id => .visit _) = _
  rw [planAll_attributes]
  simp only [List.map_cons, List.map_nil, ← List.map_eq_flatMap, ParameterDecl.mark,
    ParameterDecl.units]

/-- The visits of parameters register their units, each parameter at its own position. -/
theorem planAll_parameters (c : Catalogue) (method : MethodRef) (start : Nat)
    (parameters : List (ParameterDecl Nat)) (store : Store V) :
    let numbered := (ParameterRef.number start (parameters.map (·.name))).zip parameters
    planAll c store ((numbered.flatMap (Visit.ofParameter method)).map .visit) =
      let marked := Store.thread (ParameterDecl.mark c method) store numbered
      ((marked.1.zipIdx start).flatMap fun (p, position) => p.units method position,
        marked.2) := by
  -- The rest of the parameters is numbered from the next position, hence the general start.
  induction parameters generalizing start store with
  | nil => rfl
  | cons p rest ih =>
    dsimp only at ih ⊢
    rw [List.map_cons, ParameterRef.number, List.zip_cons_cons, List.flatMap_cons, List.map_append,
      planAll_append, planAll_parameter]
    dsimp only [Store.thread]
    rw [ih, List.zipIdx_cons, List.flatMap_cons]

/-- The visits of a method register its units. -/
theorem planAll_method (c : Catalogue) (m : MethodDecl Nat) (store : Store V) :
    planAll c store ((Visit.ofMethod m).map .visit) =
      let marked := MethodDecl.mark c m store
      (marked.1.units, marked.2) := by
  have hparameters := planAll_parameters c m.reference 0 m.parameters store
  have hwhole (store : Store V) : planAll c store ((Visit.ofWhole m).map .visit) =
      let marked := Store.thread (Attribute.mark c m.sites) store m.attributes
      ((Attribute.admitted marked.1).flatMap fun id =>
        [⟨.methodBody m.reference none, id⟩, ⟨.staticInitializer m.declaringType, id⟩],
        marked.2) := by
    rw [Visit.ofWhole, List.map_map]
    exact planAll_attributes c (.method m.reference) m.sites
      [.methodBody m.reference none, .staticInitializer m.declaringType] m.attributes store
  change planAll c store ((m.numbered.flatMap _).map .visit) = _ at hparameters
  rw [Visit.ofMethod, List.map_append, planAll_append, hparameters]
  dsimp only
  rw [hwhole, MethodDecl.units, MethodDecl.reference_mark]
  rfl

/-- The steps of a property register its units. -/
theorem planAll_property (c : Catalogue) (p : PropertyDecl Nat) (store : Store V) :
    planAll c store (ScanStep.ofProperty p) =
      let marked := PropertyDecl.mark c p store
      (marked.1.units, marked.2) := by
  obtain ⟨name, declaringType, type, writable, attributes⟩ := p
  cases writable with
  | true =>
    change planAll c store ((Attribute.validators attributes).map fun id => .visit _) = _
    rw [planAll_attributes]
    simp only [List.map_cons, List.map_nil, ← List.map_eq_flatMap]
    rfl
  | false =>
    change planAll c store (if (Attribute.validators attributes).isEmpty then [] else
      [.skip declaringType name (Attribute.validators attributes).length]) = ([], store)
    split
    · rfl
    · rfl

end ScanStep

/-- A scan registers the units of the marked declarations, and leaves the store of the walk. -/
theorem Declarations.planAll_steps (d : Declarations) (store : Store V) :
    ScanStep.planAll d.catalogue store d.steps =
      let marked := d.mark store
      (marked.methods.flatMap MethodDecl.units ++ marked.properties.flatMap PropertyDecl.units,
        marked.store) := by
  rw [steps, List.map_flatMap, ScanStep.planAll_append,
    ScanStep.planAll_flatMap _ _ _ _ _ (ScanStep.planAll_method d.catalogue)]
  dsimp only
  rw [ScanStep.planAll_flatMap _ _ _ _ _ (ScanStep.planAll_property d.catalogue)]
  rfl

end Contracts
