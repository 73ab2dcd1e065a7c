import Contracts.Proofs.Annotation.Problems
import Contracts.Proofs.Declaration.Chains

/-!
# Types of collections

The element type of a type is that of the first capability of collections at the end of its chain of
optional types. Whether the type has a capability is asked there and of its own declaration as well.
So an optional type that is declared as a collection, with no collection behind it, has the
capability and no element type; on all other types the two questions have one answer. A not-empty
rule refuses a type when the first question finds nothing, on types that are neither text nor
countable.
-/

namespace Contracts

/-- A capability of collections is the one of its element type. -/
theorem Capability.element?_eq_some_iff {capability : Capability} {element : String} :
    capability.element? = some element ↔ capability = .collectionOf element := by
  cases capability <;> simp [element?]

namespace TypeDecl

variable {d : TypeDecl} {capability : Capability} {element : String}

/-- The capabilities of a type are listed. -/
theorem has_iff_mem : d.has capability = true ↔ capability ∈ d.capabilities := List.contains_iff_mem

/-- The first capability of collections among those of a type is the one of an element type. -/
def CollectsFirst (d : TypeDecl) (element : String) : Prop :=
  ∃ before later, d.capabilities = before ++ .collectionOf element :: later ∧
    ∀ other, .collectionOf other ∉ before

/-- A shape that stands for collections comes before the implemented capabilities, so the element
type is the first among all capabilities. -/
theorem elementType?_eq_findSome? (d : TypeDecl) :
    d.elementType? = d.capabilities.findSome? Capability.element? := by
  unfold elementType? capabilities
  cases d.shape with
  | capability own => cases own <;> rfl
  | reference => rfl
  | value => rfl
  | optional inner => rfl

/-- A type has an element type if that is what it collects first. -/
theorem elementType?_eq_some_iff : d.elementType? = some element ↔ d.CollectsFirst element := by
  rw [elementType?_eq_findSome?, List.findSome?_eq_some_iff]
  constructor
  · rintro ⟨before, capability, later, hsplit, hfound, hbefore⟩
    obtain rfl := Capability.element?_eq_some_iff.mp hfound
    exact ⟨before, later, hsplit, fun other hmem => nomatch hbefore _ hmem⟩
  · rintro ⟨before, later, hsplit, hbefore⟩
    refine ⟨before, .collectionOf element, later, hsplit, rfl, fun capability hmem => ?_⟩
    cases hcapability : capability.element? with
    | none => rfl
    | some other =>
      obtain rfl := Capability.element?_eq_some_iff.mp hcapability
      exact absurd hmem (hbefore other)

/-- A type has an element type exactly if it has some capability of collections. -/
theorem isSome_elementType?_iff (d : TypeDecl) :
    d.elementType?.isSome ↔ ∃ element, d.has (.collectionOf element) = true := by
  rw [elementType?_eq_findSome?, List.findSome?_isSome_iff]
  constructor
  · rintro ⟨capability, hmem, hsome⟩
    obtain ⟨element, helement⟩ := Option.isSome_iff_exists.mp hsome
    obtain rfl := Capability.element?_eq_some_iff.mp helement
    exact ⟨element, has_iff_mem.mpr hmem⟩
  · rintro ⟨element, hhas⟩
    exact ⟨.collectionOf element, has_iff_mem.mp hhas, rfl⟩

end TypeDecl

namespace Catalogue

variable {c : Catalogue} {type element : String} {d : TypeDecl}

/-- An optional type that is declared as a collection, while no collection is found behind it. -/
def HidesCollection (c : Catalogue) (type : String) : Prop :=
  ∃ d, c.decl? type = some d ∧ d.inner?.isSome ∧
    (∃ element, d.has (.collectionOf element) = true) ∧
    ∀ found, c.underlying type = some found → ∀ element, found.has (.collectionOf element) = false

/-- Behind a type that is not optional there is the type itself. -/
theorem underlying_of_inner? (hdecl : c.decl? type = some d) (hinner : d.inner? = none) :
    c.underlying type = some d := by
  refine (c.underlying_eq_some_iff type d).mpr ⟨0, by decide, ?_, hinner⟩
  rw [behind, Option.bind_some, hdecl]

/-- An element type is found behind a type if there is some capability of collections there. -/
theorem isSome_elementTypeOf_iff (c : Catalogue) (type : String) :
    (c.elementTypeOf type).isSome ↔
      ∃ found, c.underlying type = some found ∧
        ∃ element, found.has (.collectionOf element) = true := by
  unfold elementTypeOf
  cases c.underlying type with
  | none => simp
  | some found => simpa using found.isSome_elementType?_iff

/-- What hides a collection has no element type. -/
theorem HidesCollection.elementTypeOf (h : c.HidesCollection type) :
    c.elementTypeOf type = none := by
  obtain ⟨d, -, -, -, hfound⟩ := h
  rw [← Option.not_isSome_iff_eq_none, isSome_elementTypeOf_iff]
  rintro ⟨found, hunderlying, element, hhas⟩
  rw [hfound found hunderlying element] at hhas
  contradiction

/-- The element type of a type is one that it collects, and the first at the end of its chain. -/
theorem hasCapability_of_elementTypeOf (h : c.elementTypeOf type = some element) :
    c.hasCapability type (.collectionOf element) = true ∧
      ∃ found, c.underlying type = some found ∧ found.CollectsFirst element := by
  obtain ⟨found, hunderlying, helement⟩ := Option.bind_eq_some_iff.mp h
  have hfirst := TypeDecl.elementType?_eq_some_iff.mp helement
  obtain ⟨before, later, hsplit, -⟩ := id hfirst
  have hhas : found.has (.collectionOf element) = true := by
    rw [TypeDecl.has_iff_mem, hsplit]
    exact List.mem_append_right before List.mem_cons_self
  refine ⟨?_, found, hunderlying, hfirst⟩
  rw [hasCapability, hunderlying, Option.any_some, hhas, Bool.or_true]

/-- A type is a collection of something exactly if it has an element type or hides a collection. -/
theorem exists_collectionOf_iff (c : Catalogue) (type : String) :
    (∃ element, c.hasCapability type (.collectionOf element) = true) ↔
      (c.elementTypeOf type).isSome ∨ c.HidesCollection type := by
  constructor
  · rintro ⟨element, hhas⟩
    by_cases hsome : (c.elementTypeOf type).isSome
    · exact .inl hsome
    have hnothing : ∀ found, c.underlying type = some found →
        ∀ element, found.has (.collectionOf element) = false := by
      intro found hunderlying element
      by_contra hcollects
      exact hsome ((c.isSome_elementTypeOf_iff type).mpr
        ⟨found, hunderlying, element, Bool.not_eq_false _ ▸ hcollects⟩)
    rw [hasCapability, Bool.or_eq_true, Option.any_eq_true, Option.any_eq_true] at hhas
    rcases hhas with ⟨own, hdecl, hown⟩ | ⟨found, hunderlying, hfound⟩
    · refine .inr ⟨own, hdecl, ?_, ⟨element, hown⟩, hnothing⟩
      by_contra hinner
      have hself := underlying_of_inner? hdecl (Option.not_isSome_iff_eq_none.mp hinner)
      rw [hnothing own hself element] at hown
      contradiction
    · rw [hnothing found hunderlying element] at hfound
      contradiction
  · rintro (hsome | ⟨own, hdecl, -, ⟨element, hown⟩, -⟩)
    · obtain ⟨element, helement⟩ := Option.isSome_iff_exists.mp hsome
      exact ⟨element, (hasCapability_of_elementTypeOf helement).1⟩
    · exact ⟨element, by rw [hasCapability, hdecl, Option.any_some, hown, Bool.true_or]⟩

/-- No element type is found for types that collect nothing and for those that hide a collection. -/
theorem elementTypeOf_eq_none_iff (c : Catalogue) (type : String) :
    c.elementTypeOf type = none ↔
      (∀ element, c.hasCapability type (.collectionOf element) = false) ∨
        c.HidesCollection type := by
  have hiff := c.exists_collectionOf_iff type
  constructor
  · intro hnone
    by_cases hhides : c.HidesCollection type
    · exact .inr hhides
    · refine .inl fun element => ?_
      by_contra hhas
      rcases hiff.mp ⟨element, Bool.not_eq_false _ ▸ hhas⟩ with hsome | hhides'
      · rw [hnone] at hsome
        contradiction
      · exact hhides hhides'
  · rintro (hnothing | hhides)
    · rw [← Option.not_isSome_iff_eq_none]
      intro hsome
      obtain ⟨element, hhas⟩ := hiff.mpr (.inl hsome)
      rw [hnothing element] at hhas
      contradiction
    · exact hhides.elementTypeOf

end Catalogue

namespace Annotation

/-- A not-empty rule complains about a type that is neither text nor countable and has no element
type. -/
theorem mem_codes_checkType_notEmpty_iff {a : Annotation} (hrule : a.rule = .notEmpty) (site : Site)
    (type : String) (c : Catalogue) :
    Problem.typeNotCountable.code ∈ Trace.codes (a.checkType site type c).1 ↔
      c.hasCapability type .text = false ∧ c.hasCapability type .countable = false ∧
        c.elementTypeOf type = none := by
  simp only [checkType, hrule]
  cases c.hasCapability type .text with
  | true => simp [Trace.codes, Trace.messages]
  | false =>
    cases c.hasCapability type .countable with
    | true => simp [Trace.codes, Trace.messages]
    | false =>
      cases c.elementTypeOf type with
      | none => simp [codes_complain]
      | some element =>
        -- binding to the element type may complain, but of another problem
        have hother : Problem.typeNotCountable.code ≠ Problem.conflictingElementType.code := by
          decide
        simp only [Trace.codes, Bool.or_self, Bool.false_eq_true, if_false, specialize_messages]
        split <;> simp [AnnotationRule.complaint, hother]

end Annotation

namespace Catalogue

/-- Bags that are no collections, and optional bags that are declared as collections of items. -/
def bags : Catalogue :=
  Catalogue.declare (Catalogue.declare ⟨.empty, []⟩ ⟨"Bag", .reference, []⟩)
    ⟨"Bag?", .optional "Bag", [.collectionOf "Item"]⟩

/-- Element types and capabilities of collections. An element type of a type is one that the type
collects, and the first one in the capabilities of the type at the end of its chain. A type collects
something exactly if it has an element type or hides a collection, and what hides a collection has
no element type. So a not-empty rule complains about types that are neither text nor countable and
collect nothing or hide what they collect, and as part of a self-check it does so where the type is
declared. -/
theorem elementTypeOf_iff_collects (c : Catalogue) (type : String) :
    (∀ element, c.elementTypeOf type = some element →
      c.hasCapability type (.collectionOf element) = true ∧
        ∃ found, c.underlying type = some found ∧ found.CollectsFirst element) ∧
    ((∃ element, c.hasCapability type (.collectionOf element) = true) ↔
      (c.elementTypeOf type).isSome ∨ c.HidesCollection type) ∧
    (c.HidesCollection type → c.elementTypeOf type = none) ∧
    ∀ a : Annotation, a.rule = .notEmpty → ∀ site,
      let refused := c.hasCapability type .text = false ∧ c.hasCapability type .countable = false ∧
        ((∀ element, c.hasCapability type (.collectionOf element) = false) ∨ c.HidesCollection type)
      (Problem.typeNotCountable.code ∈ Trace.codes (a.checkType site type c).1 ↔ refused) ∧
      (site.declaredType? = some type →
        (Problem.typeNotCountable.code ∈ Trace.codes (a.selfCheck site c).1 ↔
          (c.decl? type).isSome ∧ refused)) := by
  refine ⟨fun _ => hasCapability_of_elementTypeOf, c.exists_collectionOf_iff type,
    HidesCollection.elementTypeOf, fun a hrule site => ?_⟩
  have hresolved : (a.resolvePolicy c).2.rule = .notEmpty := by
    rw [a.resolvePolicy_snd]
    exact hrule
  rw [← elementTypeOf_eq_none_iff]
  have hcomplaint {b : Annotation} (hb : b.rule = .notEmpty) :=
    Annotation.mem_codes_checkType_notEmpty_iff hb site type c
  refine ⟨hcomplaint hrule, fun htype => ?_⟩
  rw [a.mem_codes_selfCheck_iff_checkType c site rfl, htype]
  constructor
  · rintro ⟨_, ⟨⟩, hdecl, hcode⟩
    exact ⟨hdecl, (hcomplaint hresolved).mp hcode⟩
  · rintro ⟨hdecl, hrefused⟩
    exact ⟨type, rfl, hdecl, (hcomplaint hresolved).mpr hrefused⟩

/-- Optional bags collect items and have no element type, so a not-empty rule complains about
them. -/
theorem elementTypeOf_bags :
    let a : Annotation := .fresh .notEmpty {}
    bags.hasCapability "Bag?" (.collectionOf "Item") = true ∧ bags.elementTypeOf "Bag?" = none ∧
      Problem.typeNotCountable.code ∈
        Trace.codes (a.selfCheck
          (.parameter ⟨"Shop", "pack", [⟨0, "bag"⟩]⟩ ⟨0, "bag"⟩ "Bag?") bags).1 := by
  decide +kernel

/-- Optional bags hide a collection. Orders are a collection and no not-empty rule complains about
them. -/
theorem elementTypeOf_iff_collects_orders :
    let a : Annotation := .fresh .notEmpty {}
    bags.HidesCollection "Bag?" ∧ bags.elementTypeOf "Bag?" = none ∧
      shop.elementTypeOf "Orders" = some "Order" ∧
      shop.hasCapability "Orders" (.collectionOf "Order") = true ∧
      ¬ Problem.typeNotCountable.code ∈
        Trace.codes (a.selfCheck
          (.parameter ⟨"Shop", "place", [⟨0, "orders"⟩]⟩ ⟨0, "orders"⟩ "Orders") shop).1 := by
  intro a
  have hhides : bags.HidesCollection "Bag?" := by
    refine ⟨⟨"Bag?", .optional "Bag", [.collectionOf "Item"]⟩, by decide +kernel, rfl,
      ⟨"Item", by decide⟩, ?_⟩
    intro found hfound element
    obtain rfl : ⟨"Bag", .reference, []⟩ = found := Option.some.inj hfound
    rfl
  have horders : shop.elementTypeOf "Orders" = some "Order" := by decide +kernel
  obtain ⟨hfirst, -, -, hnotEmpty⟩ := elementTypeOf_iff_collects shop "Orders"
  have hcollects := (hfirst "Order" horders).1
  refine ⟨hhides, (elementTypeOf_iff_collects bags "Bag?").2.2.1 hhides, horders, hcollects, ?_⟩
  rw [(hnotEmpty a rfl _).2 rfl]
  rintro ⟨-, -, -, hnothing | ⟨d, hdecl, hinner, -, -⟩⟩
  · rw [hnothing "Order"] at hcollects
    contradiction
  · obtain rfl : ⟨"Orders", .reference, [.collectionOf "Order"]⟩ = d := Option.some.inj hdecl
    contradiction

end Catalogue

end Contracts
