import Contracts.Manifest.Load
import Contracts.Proofs.Annotation.History
import Contracts.Proofs.Json.Yields
import Contracts.Proofs.Manifest.Numbering

/-!
# Annotations as they are loaded

In the annotations of a loaded manifest nothing is worked out yet, and each of them is an instance
of its own.
-/

namespace Contracts

open Json (Decoder RecordField Variant)

/-- Nothing was worked out for the annotation yet. -/
def Annotation.IsFresh (a : Annotation) : Prop := a = .fresh a.rule a.failure

namespace Attribute

/-- The annotation that an attribute is, if it is one, is fresh. -/
def IsFresh (x : Attribute Annotation) : Prop :=
  ∀ a, x.validator? = some a → a.IsFresh

/-- Fresh attributes hold fresh annotations. -/
theorem isFresh_of_mem_validators {attributes : List (Attribute Annotation)}
    (h : ∀ x ∈ attributes, x.IsFresh) {a : Annotation}
    (ha : a ∈ validators attributes) : a.IsFresh := by
  obtain ⟨x, hx, hvalidator⟩ := List.mem_filterMap.mp ha
  exact h x hx a hvalidator

/-- What a kind of annotation is decoded to is fresh. -/
theorem isFresh_annotationKind {ρ : Type} {name : String} {record : Json.Record (ρ × FailureConfig)}
    {rule : ρ → AnnotationRule} {json : Json} {x : Attribute Annotation}
    (h : ofKind (annotationKind name record rule) json = .ok x) : x.IsFresh := by
  obtain ⟨draft, -, rfl⟩ := Json.Decoded.of_map_eq_ok h
  intro a ha
  obtain rfl := Option.some.inj ha
  rfl

/-- What any kind of attribute is decoded to is fresh. -/
theorem isFresh_ofKind {kind : Variant (Attribute Annotation)} (hkind : kind ∈ kinds) {json : Json}
    {x : Attribute Annotation} (h : ofKind kind json = .ok x) :
    x.IsFresh := by
  simp only [kinds, List.mem_cons, List.not_mem_nil, or_false] at hkind
  rcases hkind with rfl | rfl | rfl | rfl | rfl
  · exact isFresh_annotationKind h
  · exact isFresh_annotationKind h
  · exact isFresh_annotationKind h
  · exact isFresh_annotationKind h
  · obtain ⟨name, -, rfl⟩ := Json.Decoded.of_map_eq_ok h
    exact fun a ha => nomatch ha

/-- A kind that is found is one of the kinds. -/
theorem mem_kinds_of_kindOf {json : Json} {kind : Variant (Attribute Annotation)}
    (h : kindOf json = .ok kind) : kind ∈ kinds := by
  unfold kindOf at h
  split at h
  · exact (Variant.mem_of_find_eq_ok h).1
  · exact absurd h (Json.refuse_ne_ok _ _ _)

/-- The kind that is found among members is one of the kinds. -/
theorem mem_kinds_of_setAside {members : List (String × Json)}
    {before kind : Option (Variant (Attribute Annotation))} {others : List (String × Json)}
    (h : setAside members before = .ok (kind, others)) (hbefore : ∀ k ∈ before, k ∈ kinds) :
    ∀ k ∈ kind, k ∈ kinds := by
  induction members generalizing before kind others with
  | nil =>
    cases h
    exact hbefore
  | cons member rest ih =>
    obtain ⟨name, json⟩ := member
    unfold setAside at h
    split at h
    · split at h
      · contradiction
      · obtain ⟨found, hfound, hrest⟩ := Json.Decoded.of_bind_eq_ok h
        refine ih hrest fun k hk => ?_
        obtain rfl := Option.some.inj hk
        exact mem_kinds_of_kindOf hfound
    · split at h
      · obtain ⟨⟨later, set⟩, hrest, hpair⟩ := Json.Decoded.of_bind_eq_ok h
        cases hpair
        exact ih hrest hbefore
      · contradiction

/-- Decoded attributes are fresh. -/
theorem yields_decoder : Decoder.Yields decoder IsFresh := by
  intro source json x h
  unfold decoder at h
  split at h
  · obtain ⟨⟨kind, others⟩, hset, hkind⟩ := Json.Decoded.of_bind_eq_ok h
    have hmem := mem_kinds_of_setAside hset (by simp)
    split at hkind
    · rename_i found rest heq
      cases heq
      exact isFresh_ofKind (hmem found rfl) hkind
    · contradiction
  · contradiction
  · obtain ⟨kind, hkind, hrest⟩ := Json.Decoded.of_bind_eq_ok h
    split at hrest
    · exact isFresh_ofKind (mem_kinds_of_kindOf hkind) hrest
    · contradiction
  · exact absurd h (Json.Decoded.bind_error_ne_ok _ _ _)
  · exact absurd h (Json.Decoded.bind_error_ne_ok _ _ _)
  · contradiction
  · exact absurd h (Json.refuse_ne_ok _ _ _)

end Attribute

/-- The annotations on a decoded parameter are fresh. -/
theorem ParameterDecl.yields_record :
    Decoder.Yields (ParameterDecl.record Attribute.decoder).decoder
      fun p => ∀ a ∈ p.validators, a.IsFresh := by
  refine Json.Record.yields (fun a ha => nomatch ha) ?_
  intro field hfield
  simp only [record, List.mem_cons, List.not_mem_nil, or_false] at hfield
  rcases hfield with rfl | rfl | rfl
  · exact RecordField.keeps_of_same fun _ _ h => h
  · exact RecordField.keeps_of_same fun _ _ h => h
  · exact RecordField.keeps_of Attribute.yields_decoder.list
      fun _ _ h _ _ ha => Attribute.isFresh_of_mem_validators h ha

/-- The annotations on a decoded method and its parameters are fresh. -/
theorem MethodDecl.yields_record :
    Decoder.Yields (MethodDecl.record Attribute.decoder).decoder
      fun m => ∀ a ∈ m.validators, a.IsFresh := by
  refine Json.Record.yields (fun a ha => nomatch ha) ?_
  intro field hfield
  simp only [record, List.mem_cons, List.not_mem_nil, or_false] at hfield
  rcases hfield with rfl | rfl | rfl | rfl
  · exact RecordField.keeps_of_same fun _ _ h => h
  · exact RecordField.keeps_of_same fun _ _ h => h
  · refine RecordField.keeps_of ParameterDecl.yields_record.list ?_
    intro parameters m hparameters hm a ha
    rcases List.mem_append.mp ha with hparameter | hwhole
    · obtain ⟨p, hp, hvalidator⟩ := List.mem_flatMap.mp hparameter
      exact hparameters p hp a hvalidator
    · exact hm a (List.mem_append_right _ hwhole)
  · refine RecordField.keeps_of Attribute.yields_decoder.list ?_
    intro attributes m hattributes hm a ha
    rcases List.mem_append.mp ha with hparameter | hwhole
    · exact hm a (List.mem_append_left _ hparameter)
    · exact Attribute.isFresh_of_mem_validators hattributes hwhole

/-- The annotations on a decoded property are fresh. -/
theorem PropertyDecl.yields_record :
    Decoder.Yields (PropertyDecl.record Attribute.decoder).decoder
      fun p => ∀ a ∈ p.validators, a.IsFresh := by
  refine Json.Record.yields (fun a ha => nomatch ha) ?_
  intro field hfield
  simp only [record, List.mem_cons, List.not_mem_nil, or_false] at hfield
  rcases hfield with rfl | rfl | rfl | rfl | rfl
  · exact RecordField.keeps_of_same fun _ _ h => h
  · exact RecordField.keeps_of_same fun _ _ h => h
  · exact RecordField.keeps_of_same fun _ _ h => h
  · exact RecordField.keeps_of_same fun _ _ h => h
  · exact RecordField.keeps_of Attribute.yields_decoder.list
      fun _ _ h _ _ ha => Attribute.isFresh_of_mem_validators h ha

namespace Manifest

/-- The annotations of a decoded manifest are fresh. -/
theorem yields_decoder : Decoder.Yields decoder fun m => ∀ a ∈ m.annotations, a.IsFresh := by
  refine Json.Record.yields (fun a ha => nomatch ha) ?_
  intro field hfield
  simp only [record, List.mem_cons, List.not_mem_nil, or_false] at hfield
  rcases hfield with rfl | rfl | rfl
  · exact RecordField.keeps_of_same fun _ _ h => h
  · refine RecordField.keeps_of MethodDecl.yields_record.list ?_
    intro methods m hmethods hm a ha
    rcases List.mem_append.mp ha with hmethod | hproperty
    · obtain ⟨method, hmem, hvalidator⟩ := List.mem_flatMap.mp hmethod
      exact hmethods method hmem a hvalidator
    · exact hm a (List.mem_append_right _ hproperty)
  · refine RecordField.keeps_of PropertyDecl.yields_record.list ?_
    intro properties m hproperties hm a ha
    rcases List.mem_append.mp ha with hmethod | hproperty
    · exact hm a (List.mem_append_left _ hmethod)
    · obtain ⟨property, hmem, hvalidator⟩ := List.mem_flatMap.mp hproperty
      exact hproperties property hmem a hvalidator

/-- A result whose errors are worded anew is a result without that. -/
theorem eq_ok_of_mapError {ε ε' α : Type} {wording : ε → ε'} {r : Except ε α} {a : α}
    (h : r.mapError wording = .ok a) : r = .ok a := by
  cases r with
  | ok b => exact congrArg Except.ok (Except.ok.inj h)
  | error e => contradiction

/-- A manifest that was loaded was decoded. -/
theorem exists_decoder_of_load {read : FileReader} {path : String} {m : Manifest}
    (h : load read path = .ok m) : ∃ source json, decoder source json = .ok m := by
  unfold load at h
  split at h
  · contradiction
  · unfold ofFile at h
    split at h
    · obtain ⟨decoded, hdecoded, hrest⟩ := Json.Decoded.of_bind_eq_ok (eq_ok_of_mapError h)
      split at hrest
      · contradiction
      · cases hrest
        exact ⟨_, _, hdecoded⟩
    · have htext := eq_ok_of_mapError h
      unfold ofTomlText at htext
      split at htext
      · exact ⟨_, _, htext⟩
      · contradiction
    · contradiction

/-- In the store of a loaded manifest all annotations are fresh. -/
theorem isFresh_store_of_load {read : FileReader} {path : String} {m : Manifest}
    (h : load read path = .ok m) (id : Nat) : (m.store id).IsFresh := by
  obtain ⟨source, json, hdecoded⟩ := exists_decoder_of_load h
  have hall := yields_decoder source json m hdecoded
  unfold store Store.ofList
  rcases Nat.lt_or_ge id m.annotations.length with hid | hid
  · rw [List.getD_eq_getElem?_getD, List.getElem?_eq_getElem hid]
    exact hall _ (List.getElem_mem hid)
  · rw [List.getD_eq_getElem?_getD, List.getElem?_eq_none hid]
    rfl

end Manifest

end Contracts
