import Contracts.Manifest.Basic
import Contracts.Proofs.Json.Reading
import Contracts.Proofs.Json.Strictness
import Contracts.Proofs.Manifest.Fresh

/-!
# What manifests may hold

The objects in a manifest stand for structures, each with fields of its own; those of an attribute
depend on its kind. A manifest with an object that has any other member is not loaded, except that
the options of a pattern may have such members: these are passed over, and the manifest is loaded as
if they were not there.
-/

namespace Contracts

open Json (Decoded Decoder Record RecordField Variant)

/-- If a name is among the members, its value is one of the members. -/
theorem Json.exists_member?_of_mem {members : List (String × Json)} {name : String} {json : Json}
    (h : (name, json) ∈ members) :
    ∃ last, member? members name = some last ∧ (name, last) ∈ members := by
  have hfind : (members.reverse.find? (·.1 == name)).isSome := by
    rw [List.find?_isSome]
    exact ⟨(name, json), List.mem_reverse.mpr h, beq_self_eq_true name⟩
  obtain ⟨⟨other, last⟩, hlast⟩ := Option.isSome_iff_exists.mp hfind
  have hname := List.find?_some hlast
  obtain rfl : other = name := beq_iff_eq.mp hname
  exact ⟨last, by rw [member?, hlast]; rfl, List.mem_reverse.mp (List.mem_of_find?_eq_some hlast)⟩

namespace Attribute

/-- The names of the fields of a kind of attributes. -/
def fieldNames : String → List String
  | "not_null" => (annotationRecord "NotNull" () []).names
  | "not_empty" => (annotationRecord "NotEmpty" () []).names
  | "interval" => IntervalRule.record.names
  | "pattern" => PatternRule.record.names
  | "other" => otherRecord.names
  | _ => []

variable {members others : List (String × Json)}
  {before kind : Option (Variant (Attribute Annotation))}

/-- All members but the kind are set aside, and a kind among the members is the one that is found.
-/
theorem of_setAside_eq_ok (h : setAside members before = .ok (kind, others)) :
    others = members.filter (fun member => member.1 ≠ "kind") ∧
      (∀ k ∈ before, kind = some k) ∧
      (∀ json, ("kind", json) ∈ members → ∃ k, kindOf json = .ok k ∧ kind = some k) ∧
      (kind = before ∨ ∃ json, ("kind", json) ∈ members) := by
  induction members generalizing before kind others with
  | nil =>
    cases h
    exact ⟨rfl, fun k hk => hk, nofun, .inl rfl⟩
  | cons member rest ih =>
    obtain ⟨name, json⟩ := member
    by_cases hname : name = "kind"
    · subst hname
      unfold setAside at h
      rw [if_pos rfl] at h
      cases before with
      | some k => contradiction
      | none =>
        obtain ⟨found, hfound, hrest⟩ := Decoded.of_bind_eq_ok h
        obtain ⟨hothers, hkept, hkinds, -⟩ := ih hrest
        have hkind : kind = some found := hkept found rfl
        refine ⟨by simpa using hothers, by simp, fun other hother => ?_,
          .inr ⟨json, List.mem_cons_self⟩⟩
        rcases List.mem_cons.mp hother with heq | hlater
        · rw [(Prod.mk.inj heq).2]
          exact ⟨found, hfound, hkind⟩
        · exact hkinds other hlater
    · unfold setAside at h
      rw [if_neg hname] at h
      split at h
      · obtain ⟨⟨later, set⟩, hrest, hpair⟩ := Decoded.of_bind_eq_ok h
        cases hpair
        obtain ⟨hothers, hkept, hkinds, hfrom⟩ := ih hrest
        refine ⟨by simp [hname, hothers], hkept, fun other hother => ?_, ?_⟩
        · rcases List.mem_cons.mp hother with heq | hlater
          · exact absurd (Prod.mk.inj heq).1.symm hname
          · exact hkinds other hlater
        · exact hfrom.imp_right fun hlater => hlater.imp fun _ => List.mem_cons_of_mem _
      · contradiction

/-- Members are set aside one part after the other. -/
theorem setAside_append (members more : List (String × Json))
    (kind : Option (Variant (Attribute Annotation))) :
    setAside (members ++ more) kind = do
      let (kind, front) ← setAside members kind
      let (kind, back) ← setAside more kind
      return (kind, front ++ back) := by
  induction members generalizing kind with
  | nil =>
    simp only [List.nil_append, setAside, bind, Except.bind, pure, Except.pure]
    cases setAside more kind <;> rfl
  | cons member rest ih =>
    obtain ⟨name, json⟩ := member
    simp only [List.cons_append, setAside]
    split
    · cases kind with
      | some k => rfl
      | none =>
        simp only [ih]
        cases kindOf json <;> rfl
    · split
      · simp only [ih]
        cases setAside rest kind with
        | error e => rfl
        | ok front =>
          simp only [bind, Except.bind, pure, Except.pure]
          cases setAside more front.1 <;> rfl
      · rfl

/-- Only texts name a kind. -/
theorem exists_text_of_kindOf {json : Json} {k : Variant (Attribute Annotation)}
    (h : kindOf json = .ok k) : ∃ name, json = .text name := by
  unfold kindOf at h
  split at h
  · exact ⟨_, rfl⟩
  · exact absurd h (Json.refuse_ne_ok _ _ _)

/-- An annotation is not read from members of which one belongs to no field of its kind. -/
theorem ofKind_annotationKind_ne_ok {ρ : Type} {name : String} {record : Record (ρ × FailureConfig)}
    {rule : ρ → AnnotationRule} {member : String × Json} (hstrict : record.strict = true)
    (hmember : member ∈ members) (hunknown : member.1 ∉ record.names) (a : Attribute Annotation) :
    ofKind (annotationKind name record rule) (.object members) ≠ .ok a := by
  intro h
  obtain ⟨draft, hdraft, -⟩ := Decoded.of_map_eq_ok h
  exact Record.refuses_object hstrict hmember hunknown .buffer draft hdraft

/-- No kind of attribute is read from members of which one belongs to none of its fields. -/
theorem ofKind_ne_ok {name : String} {k : Variant (Attribute Annotation)}
    (hkind : kindOf (.text name) = .ok k) {member : String × Json} (hmember : member ∈ members)
    (hunknown : member.1 ∉ fieldNames name) (a : Attribute Annotation) :
    ofKind k (.object members) ≠ .ok a := by
  obtain ⟨hmem, rfl⟩ := Variant.mem_of_find_eq_ok hkind
  simp only [kinds, List.mem_cons, List.not_mem_nil, or_false] at hmem
  rcases hmem with rfl | rfl | rfl | rfl | rfl
  · exact ofKind_annotationKind_ne_ok rfl hmember hunknown a
  · exact ofKind_annotationKind_ne_ok rfl hmember hunknown a
  · exact ofKind_annotationKind_ne_ok rfl hmember hunknown a
  · exact ofKind_annotationKind_ne_ok rfl hmember hunknown a
  · intro h
    obtain ⟨draft, hdraft, -⟩ := Decoded.of_map_eq_ok h
    exact Record.refuses_object rfl hmember hunknown .buffer draft hdraft

/-- The names that may stand in the object of an attribute. -/
def objectNames (members : List (String × Json)) : List String :=
  "kind" :: match Json.member? members "kind" with
    | some (.text kind) => fieldNames kind
    | _ => []

/-- The names in the object of an interval. -/
example : objectNames [("min", .integer 1), ("kind", .text "interval")] =
    ["kind", "min", "min_mode", "max", "max_mode", "error_type", "message"] := by
  decide

/-- An attribute is not read from an object with a member that its kind does not have. -/
theorem refuses_object {member : String × Json} (hmember : member ∈ members)
    (hunknown : member.1 ∉ objectNames members) :
    Decoder.Refuses decoder (.object members) := by
  intro source a h
  obtain ⟨⟨kind, others⟩, hset, hrest⟩ := Decoded.of_bind_eq_ok h
  obtain ⟨hothers, -, hkinds, hfrom⟩ := of_setAside_eq_ok hset
  cases kind with
  | none => contradiction
  | some k =>
    obtain ⟨json, hjson⟩ : ∃ json, ("kind", json) ∈ members := hfrom.resolve_left nofun
    obtain ⟨last, hlast, hmem⟩ := Json.exists_member?_of_mem hjson
    obtain ⟨other, hother, hsame⟩ := hkinds last hmem
    obtain rfl := Option.some.inj hsame
    obtain ⟨name, rfl⟩ := exists_text_of_kindOf hother
    rw [objectNames, hlast, List.mem_cons, not_or] at hunknown
    refine ofKind_ne_ok hother ?_ hunknown.2 a hrest
    rw [hothers, List.mem_filter]
    exact ⟨hmember, by simpa using hunknown.1⟩

/-- What is read from an attribute that is an object, given the kind among its members. -/
theorem delegates_member {β : Type} {inner : Decoder β} {name field : String}
    {read : Decoder (Attribute Annotation)} {pre post : List (String × Json)}
    (hname : ("kind", .text name) ∈ pre ++ post)
    (hkind : kindOf (.text name) = .ok (.content name read))
    (hfield : field ≠ "kind")
    (h : Decoder.Delegates read inner fun x =>
      .object (pre.filter (·.1 ≠ "kind") ++ (field, x) :: post.filter (·.1 ≠ "kind"))) :
    Decoder.Delegates decoder inner fun x => .object (pre ++ (field, x) :: post) where
  asks source := by
    obtain ⟨source', hasks⟩ := h.asks .buffer
    refine ⟨source', fun readable => ?_⟩
    cases hpre : setAside pre none with
    | error e =>
      refine .inl ⟨e, fun x _ => ?_⟩
      simp [decoder, setAside_append, hpre, bind, Except.bind]
    | ok front =>
      cases readable with
      | false =>
        refine .inl ⟨.unreadable, fun x hx => ?_⟩
        simp [decoder, setAside_append, hpre, setAside, hfield, hx, bind, Except.bind]
      | true =>
        cases hpost : setAside post front.1 with
        | error e =>
          refine .inl ⟨e, fun x hx => ?_⟩
          simp [decoder, setAside_append, hpre, setAside, hfield, hx, hpost, bind, Except.bind]
        | ok back =>
          have hboth : setAside (pre ++ post) none = .ok (back.1, front.2 ++ back.2) := by
            rw [setAside_append, hpre]
            simp [hpost, bind, Except.bind, pure, Except.pure]
          obtain ⟨k, hk, hback⟩ := (of_setAside_eq_ok hboth).2.2.1 _ hname
          rw [hkind] at hk
          obtain rfl := Except.ok.inj hk
          have hread (x : Json) (hx : x.readable = true) : decoder source
              (.object (pre ++ (field, x) :: post)) = read .buffer (.object
                (pre.filter (·.1 ≠ "kind") ++ (field, x) :: post.filter (·.1 ≠ "kind"))) := by
            rw [← (of_setAside_eq_ok hpre).1, ← (of_setAside_eq_ok hpost).1]
            simp [decoder, setAside_append, hpre, setAside, hfield, hx, hpost, hback, ofKind, bind,
              Except.bind, pure, Except.pure]
          rcases hasks true with ⟨e, he⟩ | ⟨next, hnext⟩
          · exact .inl ⟨e, fun x hx => (hread x hx).trans (he x hx)⟩
          · exact .inr ⟨next, fun x hx => (hread x hx).trans (hnext x hx)⟩
  readable := ⟨_, Json.readable_object_insert pre post field⟩

/-- What is read from an attribute that is a list, given the kind in front. -/
theorem delegates_item {β : Type} {inner : Decoder β} {name : String} {first : Json}
    {read : Decoder (Attribute Annotation)} {pre post : List Json}
    (hkind : kindOf first = .ok (.content name read))
    (h : Decoder.Delegates read inner fun x => .array (pre ++ x :: post)) :
    Decoder.Delegates decoder inner fun x => .array (first :: (pre ++ x :: post)) where
  asks source := by
    obtain ⟨source', hasks⟩ := h.asks .buffer
    refine ⟨source', fun readable => ?_⟩
    have hread (x : Json) : decoder source (.array (first :: (pre ++ x :: post))) =
        if x.readable && (pre ++ post).all Json.readable then
          read .buffer (.array (pre ++ x :: post))
        else .error .unreadable := by
      have hall : (pre ++ x :: post).all Json.readable =
          (x.readable && (pre ++ post).all Json.readable) := by
        rw [List.all_append, List.all_cons, List.all_append, Bool.and_left_comm]
      rw [← hall, decoder, hkind]
      rfl
    cases hrest : readable && (pre ++ post).all Json.readable with
    | false =>
      refine .inl ⟨.unreadable, fun x hx => (hread x).trans ?_⟩
      rw [hx, hrest]
      rfl
    | true =>
      rcases hasks readable with ⟨e, he⟩ | ⟨next, hnext⟩
      · refine .inl ⟨e, fun x hx => (hread x).trans ?_⟩
        rw [hx, hrest]
        exact he x hx
      · refine .inr ⟨next, fun x hx => (hread x).trans ?_⟩
        rw [hx, hrest]
        exact hnext x hx
  readable := by
    obtain ⟨rest, hrest⟩ := h.readable
    refine ⟨rest && first.readable, fun x => ?_⟩
    change (first.readable && (Json.array (pre ++ x :: post)).readable) = _
    rw [hrest, Bool.and_comm, Bool.and_assoc]

/-- Members that are set aside, and a kind among them, are readable. -/
theorem readable_of_setAside
    {read : Option (Variant (Attribute Annotation)) × List (String × Json)}
    (h : setAside members before = .ok read) : ∀ member ∈ members, member.2.readable = true := by
  induction members generalizing before read with
  | nil => exact nofun
  | cons member rest ih =>
    obtain ⟨name, json⟩ := member
    unfold setAside at h
    split at h
    · split at h
      · contradiction
      · obtain ⟨k, hk, hrest⟩ := Decoded.of_bind_eq_ok h
        obtain ⟨kind, rfl⟩ := exists_text_of_kindOf hk
        exact List.forall_mem_cons.mpr ⟨rfl, ih hrest⟩
    · split at h
      · rename_i hreadable
        obtain ⟨later, hrest, -⟩ := Decoded.of_bind_eq_ok h
        exact List.forall_mem_cons.mpr ⟨hreadable, ih hrest⟩
      · contradiction

/-- Attributes are read throughout. -/
theorem legible_decoder : Decoder.Legible decoder := by
  intro json a h
  unfold decoder at h
  split at h
  · obtain ⟨read, hset, -⟩ := Decoded.of_bind_eq_ok h
    rw [Json.readable, Json.membersReadable_eq_all, List.all_eq_true]
    exact readable_of_setAside hset
  · contradiction
  · obtain ⟨k, hk, hrest⟩ := Decoded.of_bind_eq_ok h
    obtain ⟨kind, rfl⟩ := exists_text_of_kindOf hk
    split at hrest
    · rename_i hitems
      rw [Json.readable, Json.allReadable_eq_all, List.all_cons, hitems]
      rfl
    · contradiction
  · exact absurd h (Decoded.bind_error_ne_ok _ _ _)
  · exact absurd h (Decoded.bind_error_ne_ok _ _ _)
  · contradiction
  · exact absurd h (Json.refuse_ne_ok _ _ _)

end Attribute

/-! ### Manifests are read throughout -/

namespace Json

/-- A field is read throughout if its decoder reads what it decodes. -/
theorem RecordField.legible_of {α δ : Type} {decoder : Decoder α} {name : String} {required : Bool}
    {put : α → δ → δ} (h : decoder.Legible) :
    Decoder.Legible (RecordField.of name required decoder put).read :=
  h.map put

end Json

/-- Capabilities are read throughout. -/
theorem Capability.legible_decoder : Decoder.Legible Capability.decoder := by
  refine Variant.legible_decoder fun variant hvariant => ?_
  simp only [variants, List.mem_cons, List.not_mem_nil, or_false] at hvariant
  rcases hvariant with rfl | rfl | rfl | rfl | rfl | rfl
  case inr.inr.inr.inl => exact Decoder.legible_text.map _
  all_goals trivial

/-- Shapes are read throughout. -/
theorem TypeShape.legible_decoder : Decoder.Legible TypeShape.decoder := by
  refine Variant.legible_decoder fun variant hvariant => ?_
  simp only [variants, List.mem_cons, List.not_mem_nil, or_false] at hvariant
  rcases hvariant with rfl | rfl | rfl | rfl
  · trivial
  · trivial
  · exact Decoder.legible_text.map _
  · exact Capability.legible_decoder.map _

/-- Types are read throughout. -/
theorem TypeDecl.legible_decoder : Decoder.Legible TypeDecl.decoder := by
  refine Record.legible_decoder rfl fun field hfield => ?_
  simp only [record, List.mem_cons, List.not_mem_nil, or_false] at hfield
  rcases hfield with rfl | rfl | rfl
  · exact RecordField.legible_of Decoder.legible_text
  · exact RecordField.legible_of TypeShape.legible_decoder
  · exact RecordField.legible_of Capability.legible_decoder.list

/-- Parameters are read throughout. -/
theorem ParameterDecl.legible_decoder :
    Decoder.Legible (ParameterDecl.record Attribute.decoder).decoder := by
  refine Record.legible_decoder rfl fun field hfield => ?_
  simp only [record, List.mem_cons, List.not_mem_nil, or_false] at hfield
  rcases hfield with rfl | rfl | rfl
  · exact RecordField.legible_of Decoder.legible_text
  · exact RecordField.legible_of Decoder.legible_text
  · exact RecordField.legible_of Attribute.legible_decoder.list

/-- Methods are read throughout. -/
theorem MethodDecl.legible_decoder :
    Decoder.Legible (MethodDecl.record Attribute.decoder).decoder := by
  refine Record.legible_decoder rfl fun field hfield => ?_
  simp only [record, List.mem_cons, List.not_mem_nil, or_false] at hfield
  rcases hfield with rfl | rfl | rfl | rfl
  · exact RecordField.legible_of Decoder.legible_text
  · exact RecordField.legible_of Decoder.legible_text
  · exact RecordField.legible_of ParameterDecl.legible_decoder.list
  · exact RecordField.legible_of Attribute.legible_decoder.list

/-- Properties are read throughout. -/
theorem PropertyDecl.legible_decoder :
    Decoder.Legible (PropertyDecl.record Attribute.decoder).decoder := by
  refine Record.legible_decoder rfl fun field hfield => ?_
  simp only [record, List.mem_cons, List.not_mem_nil, or_false] at hfield
  rcases hfield with rfl | rfl | rfl | rfl | rfl
  · exact RecordField.legible_of Decoder.legible_text
  · exact RecordField.legible_of Decoder.legible_text
  · exact RecordField.legible_of Decoder.legible_text
  · exact RecordField.legible_of Decoder.legible_bool
  · exact RecordField.legible_of Attribute.legible_decoder.list

namespace Manifest

/-- Manifests are read throughout. -/
theorem legible_decoder : Decoder.Legible decoder := by
  refine Record.legible_decoder rfl fun field hfield => ?_
  simp only [record, List.mem_cons, List.not_mem_nil, or_false] at hfield
  rcases hfield with rfl | rfl | rfl
  · exact RecordField.legible_of TypeDecl.legible_decoder.list
  · exact RecordField.legible_of MethodDecl.legible_decoder.list
  · exact RecordField.legible_of PropertyDecl.legible_decoder.list

/-- The structures of a manifest. -/
inductive Structure where
  | manifest
  | type
  | method
  | parameter
  | property
  | attr
  | options
  deriving DecidableEq

namespace Structure

/-- What a structure is read as. -/
def Content : Structure → Type
  | .manifest => Manifest
  | .type => TypeDecl
  | .method => MethodDecl Annotation
  | .parameter => ParameterDecl Annotation
  | .property => PropertyDecl Annotation
  | .attr => Attribute Annotation
  | .options => PatternOptions

/-- How a structure is read. -/
def decoder : (s : Structure) → Decoder s.Content
  | .manifest => Manifest.decoder
  | .type => TypeDecl.decoder
  | .method => (MethodDecl.record Attribute.decoder).decoder
  | .parameter => (ParameterDecl.record Attribute.decoder).decoder
  | .property => (PropertyDecl.record Attribute.decoder).decoder
  | .attr => Attribute.decoder
  | .options => PatternOptions.record.decoder

/-- The names that the members of an object for a structure may have. -/
def names : Structure → List (String × Json) → List String
  | .manifest, _ => Manifest.record.names
  | .type, _ => TypeDecl.record.names
  | .method, _ => (MethodDecl.record Attribute.decoder).names
  | .parameter, _ => (ParameterDecl.record Attribute.decoder).names
  | .property, _ => (PropertyDecl.record Attribute.decoder).names
  | .attr, members => Attribute.objectNames members
  | .options, _ => PatternOptions.record.names

/-- The fields of a structure that list other structures. -/
def lists : Structure → List (String × Structure)
  | .manifest => [("types", .type), ("methods", .method), ("properties", .property)]
  | .method => [("parameters", .parameter), ("attributes", .attr)]
  | .parameter => [("attributes", .attr)]
  | .property => [("attributes", .attr)]
  | _ => []

/-- A structure that lists others is a record with such a field. -/
theorem exists_record {s t : Structure} {name : String} (h : (name, t) ∈ s.lists) :
    ∃ (record : Record s.Content) (required : Bool) (put : List t.Content → s.Content → s.Content),
      s.decoder = record.decoder ∧ s.names [] = record.names ∧ record.names.Nodup ∧
        record.field? name = some (.of name required (Decoder.list t.decoder) put) := by
  cases s <;> simp only [lists, List.mem_cons, List.not_mem_nil, or_false] at h
  case manifest =>
    rcases h with h | h | h <;> cases h <;> exact ⟨_, _, _, rfl, rfl, by decide, rfl⟩
  case method =>
    rcases h with h | h <;> cases h <;> exact ⟨_, _, _, rfl, rfl, by decide, rfl⟩
  case parameter => cases h; exact ⟨_, _, _, rfl, rfl, by decide, rfl⟩
  case property => cases h; exact ⟨_, _, _, rfl, rfl, by decide, rfl⟩

end Structure

/-- The places in a manifest where a document stands for a structure. A record may be written as an
object or as the list of its fields. -/
inductive Place : Structure → (Json → Json) → Prop where
  /-- The whole document. -/
  | whole : Place .manifest id
  /-- An item of a list in an object. -/
  | member {s t : Structure} {place : Json → Json} {name : String} (outer : Place s place)
      (field : (name, t) ∈ s.lists) (pre post : List (String × Json)) (before after : List Json) :
      Place t fun x => place (.object (pre ++ (name, .array (before ++ x :: after)) :: post))
  /-- An item of a list in a list of fields. -/
  | item {s t : Structure} {place : Json → Json} {name : String} {pre : List Json}
      (outer : Place s place) (field : (name, t) ∈ s.lists)
      (position : (s.names [])[pre.length]? = some name) (post before after : List Json) :
      Place t fun x => place (.array (pre ++ .array (before ++ x :: after) :: post))
  /-- The options of a pattern in an object. -/
  | options {place : Json → Json} {pre post : List (String × Json)} (outer : Place .attr place)
      (kind : ("kind", .text "pattern") ∈ pre ++ post) :
      Place .options fun x => place (.object (pre ++ ("options", x) :: post))
  /-- The options of a pattern in a list of fields. -/
  | optionsItem {place : Json → Json} (outer : Place .attr place) (pattern : Json)
      (post : List Json) :
      Place .options fun x => place (.array (.text "pattern" :: ([pattern] ++ x :: post)))

/-- The kind of patterns. -/
theorem kindOf_pattern : Attribute.kindOf (.text "pattern") =
    .ok (annotationKind "pattern" PatternRule.record .pattern) := rfl

/-- What stands for a structure is read as such. -/
theorem Place.delegates {s : Structure} {place : Json → Json} (h : Place s place) :
    decoder.Delegates s.decoder place := by
  induction h with
  | whole => exact .whole _
  | member outer field pre post before after ih =>
    obtain ⟨record, required, put, hdecoder, -, -, hfield⟩ := Structure.exists_record field
    rw [hdecoder] at ih
    have hlist :=
      (Record.delegates_member hfield pre post).comp (RecordField.delegates_of _ _ _ put)
    exact ih.comp (hlist.comp (Decoder.delegates_list _ before after))
  | item outer field position post before after ih =>
    obtain ⟨record, required, put, hdecoder, hnames, hdistinct, hfield⟩ :=
      Structure.exists_record field
    rw [hdecoder] at ih
    rw [hnames] at position
    have hposition := Record.getElem?_fields hfield hdistinct position
    have hlist := (Record.delegates_item hposition post).comp (RecordField.delegates_of _ _ _ put)
    exact ih.comp (hlist.comp (Decoder.delegates_list _ before after))
  | options outer kind ih =>
    refine ih.comp (Attribute.delegates_member kind kindOf_pattern (by decide) ?_)
    exact ((Record.delegates_member rfl _ _).comp (RecordField.delegates_of _ _ _ _)).map _
  | optionsItem outer pattern post ih =>
    refine ih.comp (Attribute.delegates_item kindOf_pattern ?_)
    exact ((Record.delegates_item rfl post).comp (RecordField.delegates_of _ _ _ _)).map _

/-- A structure other than the options of a pattern refuses members of other names. -/
theorem Structure.refuses_object {s : Structure} (hs : s ≠ .options)
    {members : List (String × Json)} {member : String × Json} (hmember : member ∈ members)
    (hunknown : member.1 ∉ s.names members) : s.decoder.Refuses (.object members) := by
  cases s with
  | manifest => exact Record.refuses_object rfl hmember hunknown
  | type => exact Record.refuses_object rfl hmember hunknown
  | method => exact Record.refuses_object rfl hmember hunknown
  | parameter => exact Record.refuses_object rfl hmember hunknown
  | property => exact Record.refuses_object rfl hmember hunknown
  | attr => exact Attribute.refuses_object hmember hunknown
  | options => contradiction

/-- A text that is a document is decoded as that. -/
theorem ofJsonText_of_read? {text : String} {root : Json} (h : Json.read? text = some root) :
    ofJsonText text = decoder .stream root := by
  rw [ofJsonText, Json.decodeText, (Json.ofText_of_read? h).1]
  cases decoder .stream root <;> rfl

/-- Manifests are read strictly, except for the options of patterns. A text that is no document is
not loaded, and neither is one with an object that has a member its structure does not have. If the
options of a pattern have such members, the text is loaded like one without these. -/
theorem ofJsonText_strict (text : String) :
    (Json.read? text = none → ∃ e, ofJsonText text = .error e) ∧
    ∀ (s : Structure) (place : Json → Json) (members : List (String × Json)), Place s place →
      Json.read? text = some (place (.object members)) →
      (s ≠ .options → (∃ member ∈ members, member.1 ∉ s.names members) →
        ∃ e, ofJsonText text = .error e) ∧
      (s = .options → ∀ other,
        Json.read? other =
          some (place (.object (members.filter fun member => member.1 ∈ s.names members))) →
        ofJsonText text = ofJsonText other) := by
  constructor
  · intro hnone
    cases hload : ofJsonText text with
    | error e => exact ⟨e, rfl⟩
    | ok m =>
      obtain ⟨decoded, hdecoded, hend⟩ := Decoded.of_bind_eq_ok hload
      have hreadable := legible_decoder _ _ hdecoded
      split at hend
      · contradiction
      · rename_i hsurplus
        rw [Json.read?] at hnone
        simp [hreadable, hsurplus] at hnone
  · intro s place members hplace hroot
    constructor
    · rintro hs ⟨member, hmember, hunknown⟩
      have hrefused := hplace.delegates.refuses (Structure.refuses_object hs hmember hunknown)
      rw [ofJsonText_of_read? hroot]
      cases hload : decoder .stream (place (.object members)) with
      | error e => exact ⟨e, rfl⟩
      | ok m => exact absurd hload (hrefused _ m)
    · rintro rfl other hother
      have hreadable : (Json.object members).readable = true := by
        obtain ⟨rest, hrest⟩ := hplace.delegates.readable
        have hwhole := (Json.ofText_of_read? hroot).2
        rw [hrest, Bool.and_eq_true] at hwhole
        exact hwhole.1
      have hagree := hplace.delegates.agrees
        (Record.agrees_filter (r := PatternOptions.record) rfl hreadable)
      rw [ofJsonText_of_read? hroot, ofJsonText_of_read? hother]
      exact hagree.2 .stream

/-- The document of a manifest of one property with one attribute. -/
def tagDocument (label : Json) : Json :=
  .object [("properties", .array [.object [("name", .text "Tag"), ("declaring_type", .text "Shop"),
    ("type", .text "String"), ("attributes", .array [label])]])]

/-- The document of a pattern with options. -/
def tagPattern (options : Json) : Json :=
  .object [("kind", .text "pattern"), ("pattern", .text "^a"), ("options", options)]

/-- The attribute stands for one. -/
theorem place_tagDocument : Place .attr tagDocument := by
  have hproperties : ("properties", Structure.property) ∈ Structure.manifest.lists := by decide
  have hattributes : ("attributes", Structure.attr) ∈ Structure.property.lists := by decide
  exact (Place.whole.member hproperties [] [] [] []).member hattributes
    [("name", .text "Tag"), ("declaring_type", .text "Shop"), ("type", .text "String")] [] [] []

/-- The options of the pattern stand for some. -/
theorem place_tagPattern : Place .options fun options => tagDocument (tagPattern options) := by
  have hkind : ("kind", Json.text "pattern") ∈
      [("kind", .text "pattern"), ("pattern", .text "^a")] ++ [] := by simp
  exact place_tagDocument.options hkind

/-- The text of a manifest with an option of an unknown name. -/
def lenientText : String :=
  "\x7b\"properties\":[\x7b\"name\":\"Tag\",\"declaring_type\":\"Shop\",\"type\":\"String\"," ++
    "\"attributes\":[\x7b\"kind\":\"pattern\",\"pattern\":\"^a\"," ++
    "\"options\":\x7b\"ignore_case\":true\x7d\x7d]\x7d]\x7d"

open Json.Token in
set_option maxRecDepth 10000 in
/-- The words of the text. -/
theorem cut_lenientText : Json.Token.cut lenientText.toList = [
    openObject, scalar (.text "properties"), colon, openArray, openObject,
    scalar (.text "name"), colon, scalar (.text "Tag"), comma,
    scalar (.text "declaring_type"), colon, scalar (.text "Shop"), comma,
    scalar (.text "type"), colon, scalar (.text "String"), comma,
    scalar (.text "attributes"), colon, openArray, openObject,
    scalar (.text "kind"), colon, scalar (.text "pattern"), comma,
    scalar (.text "pattern"), colon, scalar (.text "^a"), comma,
    scalar (.text "options"), colon, openObject,
    scalar (.text "ignore_case"), colon, scalar (.bool true), closeObject, closeObject,
    closeArray, closeObject, closeArray, closeObject] := by
  with_unfolding_all rfl

/-- The text is that of the pattern with the option. -/
theorem read?_lenientText : Json.read? lenientText =
    some (tagDocument (tagPattern (.object [("ignore_case", .bool true)]))) := by
  rw [Json.read?, Json.Document.ofText, cut_lenientText]
  rfl

/-- The text of the same manifest without options. -/
def plainText : String :=
  "\x7b\"properties\":[\x7b\"name\":\"Tag\",\"declaring_type\":\"Shop\",\"type\":\"String\"," ++
    "\"attributes\":[\x7b\"kind\":\"pattern\",\"pattern\":\"^a\",\"options\":\x7b\x7d\x7d]\x7d]\x7d"

open Json.Token in
set_option maxRecDepth 10000 in
/-- The words of the text. -/
theorem cut_plainText : Json.Token.cut plainText.toList = [
    openObject, scalar (.text "properties"), colon, openArray, openObject,
    scalar (.text "name"), colon, scalar (.text "Tag"), comma,
    scalar (.text "declaring_type"), colon, scalar (.text "Shop"), comma,
    scalar (.text "type"), colon, scalar (.text "String"), comma,
    scalar (.text "attributes"), colon, openArray, openObject,
    scalar (.text "kind"), colon, scalar (.text "pattern"), comma,
    scalar (.text "pattern"), colon, scalar (.text "^a"), comma,
    scalar (.text "options"), colon, openObject, closeObject, closeObject,
    closeArray, closeObject, closeArray, closeObject] := by
  with_unfolding_all rfl

/-- The text is that of the pattern without options. -/
theorem read?_plainText : Json.read? plainText = some (tagDocument (tagPattern (.object []))) := by
  rw [Json.read?, Json.Document.ofText, cut_plainText]
  rfl

/-- The text of a manifest with a misspelt field of a pattern. -/
def misspeltText : String :=
  "\x7b\"properties\":[\x7b\"name\":\"Tag\",\"declaring_type\":\"Shop\",\"type\":\"String\"," ++
    "\"attributes\":[\x7b\"kind\":\"pattern\",\"patern\":\"^a\"\x7d]\x7d]\x7d"

open Json.Token in
set_option maxRecDepth 10000 in
/-- The words of the text. -/
theorem cut_misspeltText : Json.Token.cut misspeltText.toList = [
    openObject, scalar (.text "properties"), colon, openArray, openObject,
    scalar (.text "name"), colon, scalar (.text "Tag"), comma,
    scalar (.text "declaring_type"), colon, scalar (.text "Shop"), comma,
    scalar (.text "type"), colon, scalar (.text "String"), comma,
    scalar (.text "attributes"), colon, openArray, openObject,
    scalar (.text "kind"), colon, scalar (.text "pattern"), comma,
    scalar (.text "patern"), colon, scalar (.text "^a"), closeObject,
    closeArray, closeObject, closeArray, closeObject] := by
  with_unfolding_all rfl

/-- The text is that of the pattern with the misspelt field. -/
theorem read?_misspeltText : Json.read? misspeltText =
    some (tagDocument (.object [("kind", .text "pattern"), ("patern", .text "^a")])) := by
  rw [Json.read?, Json.Document.ofText, cut_misspeltText]
  rfl

/-- A misspelt field of a pattern is refused, and an unknown option is passed over. -/
theorem ofJsonText_strict_tag :
    (∃ e, ofJsonText misspeltText = .error e) ∧ ofJsonText lenientText = ofJsonText plainText := by
  constructor
  · refine ((ofJsonText_strict misspeltText).2 .attr tagDocument _ place_tagDocument
      read?_misspeltText).1 (by decide) ⟨_, List.mem_cons_of_mem _ List.mem_cons_self, ?_⟩
    decide
  · exact ((ofJsonText_strict lenientText).2 .options _ _ place_tagPattern read?_lenientText).2 rfl
      plainText read?_plainText

/-- A manifest with an option of an unknown name is loaded, and the option does nothing. -/
theorem ofJsonText_lenientText :
    (∃ place, Place .options place ∧
      Json.read? lenientText = some (place (.object [("ignore_case", .bool true)])) ∧
      "ignore_case" ∉ Structure.options.names [("ignore_case", .bool true)]) ∧
    ofJsonText lenientText = .ok { properties := [⟨"Tag", "Shop", "String", true,
      [.validator { rule := .pattern ⟨"^a", {}⟩ }]⟩] } := by
  refine ⟨⟨_, place_tagPattern, read?_lenientText, by decide⟩, ?_⟩
  rw [ofJsonText_of_read? read?_lenientText]
  rfl

end Manifest

end Contracts
