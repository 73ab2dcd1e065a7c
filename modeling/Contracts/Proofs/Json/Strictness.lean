import Contracts.Proofs.Json.Yields
import Contracts.Proofs.Parts
import Mathlib.Data.List.Nodup

/-!
# Decoding what stands at a place

A decoder of lists or records hands what stands at a place of its document on to another decoder.
What that one refuses is refused by the whole, and what it does not tell apart the whole does not
tell apart. So strictness is a matter of single records: an object with an unknown member is
refused by a strict record, wherever it stands, and a record that is not strict reads it as if the
member were not there. Strict records hold nothing that could not be read.
-/

namespace Contracts.Json

/-! ### Readable documents -/

/-- A list is readable if all its items are. -/
theorem allReadable_eq_all (items : List Json) : allReadable items = items.all (·.readable) := by
  induction items with
  | nil => rfl
  | cons item rest ih => rw [allReadable, ih, List.all_cons]

/-- Members are readable if all their values are. -/
theorem membersReadable_eq_all (members : List (String × Json)) :
    membersReadable members = members.all (·.2.readable) := by
  induction members with
  | nil => rfl
  | cons member rest ih => rw [membersReadable, ih, List.all_cons]

/-- A list is readable if an item of it and all others are. -/
theorem readable_array_insert (before after : List Json) (x : Json) :
    (array (before ++ x :: after)).readable =
      (x.readable && (before.all (·.readable) && after.all (·.readable))) := by
  rw [readable, allReadable_eq_all, List.all_append, List.all_cons, Bool.and_left_comm]

/-- An object is readable if a member of it and all others are. -/
theorem readable_object_insert (pre post : List (String × Json)) (name : String) (x : Json) :
    (object (pre ++ (name, x) :: post)).readable =
      (x.readable && (pre.all (·.2.readable) && post.all (·.2.readable))) := by
  rw [readable, membersReadable_eq_all, List.all_append, List.all_cons, Bool.and_left_comm]

/-- A list is well formed if all its items are. -/
theorem allWellFormed_eq_all (items : List Json) :
    allWellFormed items = items.all (·.wellFormed) := by
  induction items with
  | nil => rfl
  | cons item rest ih => rw [allWellFormed, ih, List.all_cons]

/-- Members are well formed if all their values are. -/
theorem membersWellFormed_eq_all (members : List (String × Json)) :
    membersWellFormed members = members.all (·.2.wellFormed) := by
  induction members with
  | nil => rfl
  | cons member rest ih => rw [membersWellFormed, ih, List.all_cons]

/-- What is readable is well formed. -/
theorem wellFormed_of_readable {json : Json} (h : json.readable = true) :
    json.wellFormed = true := by
  induction json using induction_children with
  | step json ih =>
    cases json with
    | array items =>
      rw [readable, allReadable_eq_all, List.all_eq_true] at h
      rw [wellFormed, allWellFormed_eq_all, List.all_eq_true]
      exact fun item hitem => ih item hitem (h item hitem)
    | object members =>
      rw [readable, membersReadable_eq_all, List.all_eq_true] at h
      rw [wellFormed, membersWellFormed_eq_all, List.all_eq_true]
      exact fun member hmember => ih member.2 (List.mem_map_of_mem hmember) (h member hmember)
    | unreadable _ => contradiction
    | torn _ _ => contradiction
    | _ => rfl

/-! ### Delegation -/

section Delegation

variable {α β γ : Type}

/-- What is decoded from a document is either an error, whatever the document is, or it is made of
what another decoder finds in the document. Which of them may depend on whether the document is
readable. -/
def Asks (outer : Json → Decoded α) (inner : Json → Decoded β) : Prop :=
  ∀ readable : Bool,
    (∃ e, ∀ x : Json, x.readable = readable → outer x = .error e) ∨
      ∃ next : β → Decoded α, ∀ x : Json, x.readable = readable → outer x = inner x >>= next

/-- What is asked for may be used further on. -/
theorem Asks.bind {outer : Json → Decoded α} {inner : Json → Decoded β} (h : Asks outer inner)
    (next : α → Decoded γ) : Asks (fun x => outer x >>= next) inner := by
  intro readable
  rcases h readable with ⟨e, he⟩ | ⟨first, hfirst⟩
  · refine .inl ⟨e, fun x hx => ?_⟩
    change outer x >>= next = .error e
    rw [he x hx]
    rfl
  · refine .inr ⟨fun b => first b >>= next, fun x hx => ?_⟩
    change outer x >>= next = _
    rw [hfirst x hx, bind_assoc]

namespace Decoder

/-- A document that is decoded to nothing, wherever it comes from. -/
def Refuses (decoder : Decoder α) (x : Json) : Prop := ∀ source a, decoder source x ≠ .ok a

/-- Two documents that a decoder does not tell apart. -/
def Agrees (decoder : Decoder α) (x y : Json) : Prop :=
  x.readable = y.readable ∧ ∀ source, decoder source x = decoder source y

/-- A decoder hands what stands at a place of its document on to another one. -/
structure Delegates (outer : Decoder α) (inner : Decoder β) (place : Json → Json) : Prop where
  asks : ∀ source, ∃ source', Asks (fun x => outer source (place x)) (inner source')
  /-- The whole is readable if what stands at the place and the rest of it are. -/
  readable : ∃ rest : Bool, ∀ x, (place x).readable = (x.readable && rest)

namespace Delegates

variable {outer : Decoder α} {middle : Decoder β} {inner : Decoder γ} {place place' : Json → Json}

/-- A whole document is decoded as itself. -/
theorem whole (decoder : Decoder α) : decoder.Delegates decoder id where
  asks source := ⟨source, fun _ => .inr ⟨.ok, fun x _ => by
    change decoder source x = _
    cases decoder source x <;> rfl⟩⟩
  readable := ⟨true, fun x => (Bool.and_true _).symm⟩

/-- Delegation goes on from place to place. -/
theorem comp (h : outer.Delegates middle place) (h' : middle.Delegates inner place') :
    outer.Delegates inner fun x => place (place' x) where
  asks source := by
    obtain ⟨source', hasks⟩ := h.asks source
    obtain ⟨source'', hasks'⟩ := h'.asks source'
    obtain ⟨rest, hrest⟩ := h'.readable
    refine ⟨source'', fun readable => ?_⟩
    have hplace {x : Json} (hx : x.readable = readable) :
        (place' x).readable = (readable && rest) := by rw [hrest, hx]
    rcases hasks (readable && rest) with ⟨e, he⟩ | ⟨next, hnext⟩
    · exact .inl ⟨e, fun x hx => he (place' x) (hplace hx)⟩
    · rcases hasks'.bind next readable with ⟨e, he⟩ | ⟨after, hafter⟩
      · exact .inl ⟨e, fun x hx => (hnext (place' x) (hplace hx)).trans (he x hx)⟩
      · exact .inr ⟨after, fun x hx => (hnext (place' x) (hplace hx)).trans (hafter x hx)⟩
  readable := by
    obtain ⟨rest, hrest⟩ := h.readable
    obtain ⟨rest', hrest'⟩ := h'.readable
    exact ⟨rest' && rest, fun x => by rw [hrest, hrest', Bool.and_assoc]⟩

/-- What is decoded may be used further on. -/
theorem map (h : outer.Delegates inner place) (f : α → β) :
    Decoder.Delegates (fun source json => (outer source json).map f) inner place where
  asks source := by
    obtain ⟨source', hasks⟩ := h.asks source
    exact ⟨source', hasks.bind fun a => .ok (f a)⟩
  readable := h.readable

/-- What is refused at a place is refused by the whole. -/
theorem refuses (h : outer.Delegates inner place) {x : Json} (hx : inner.Refuses x) :
    outer.Refuses (place x) := by
  intro source a ha
  obtain ⟨source', hasks⟩ := h.asks source
  rcases hasks x.readable with ⟨e, he⟩ | ⟨next, hnext⟩
  · exact nomatch (he x rfl).symm.trans ha
  · obtain ⟨c, hc, -⟩ := Decoded.of_bind_eq_ok ((hnext x rfl).symm.trans ha)
    exact hx source' c hc

/-- What is not told apart at a place is not told apart by the whole. -/
theorem agrees (h : outer.Delegates inner place) {x y : Json} (hxy : inner.Agrees x y) :
    outer.Agrees (place x) (place y) := by
  obtain ⟨hreadable, hsame⟩ := hxy
  obtain ⟨rest, hrest⟩ := h.readable
  refine ⟨by rw [hrest, hrest, hreadable], fun source => ?_⟩
  obtain ⟨source', hasks⟩ := h.asks source
  rcases hasks y.readable with ⟨e, he⟩ | ⟨next, hnext⟩
  · exact (he x hreadable).trans (he y rfl).symm
  · calc outer source (place x)
      _ = inner source' x >>= next := hnext x hreadable
      _ = inner source' y >>= next := by rw [hsame]
      _ = outer source (place y) := (hnext y rfl).symm

end Delegates

/-- An item of a list is decoded on its own. -/
theorem delegates_list (item : Decoder α) (before after : List Json) :
    (Decoder.list item).Delegates item fun x => .array (before ++ x :: after) where
  asks source := by
    refine ⟨source, fun _ => ?_⟩
    cases hbefore : before.mapM (item source) with
    | error e =>
      refine .inl ⟨e, fun x _ => ?_⟩
      change (before ++ x :: after).mapM (item source) = _
      rw [List.mapM_append, hbefore]
      rfl
    | ok front =>
      refine .inr ⟨fun a => do return front ++ a :: (← after.mapM (item source)), fun x _ => ?_⟩
      change (before ++ x :: after).mapM (item source) = _
      rw [List.mapM_append, hbefore, List.mapM_cons]
      simp only [bind_assoc, pure_bind]
      rfl
  readable := ⟨_, readable_array_insert before after⟩

end Decoder

variable {δ : Type}

/-- What stands in a field is decoded as the decoder of the field does. -/
theorem RecordField.delegates_of (name : String) (required : Bool) (decoder : Decoder α)
    (put : α → δ → δ) :
    Decoder.Delegates (RecordField.of name required decoder put).read decoder id :=
  (Decoder.Delegates.whole decoder).map put

namespace Record

variable {r : Record δ} {field : RecordField δ} {name : String}

/-- The names of the fields of a record. -/
def names (r : Record δ) : List String := r.fields.map (·.name)

/-- A name belongs to no field if it is none of the names. -/
theorem field?_eq_none_iff : r.field? name = none ↔ name ∉ r.names := by
  simp [field?, names]

/-- The name of a field is one of the names. -/
theorem mem_names_of_field? (h : r.field? name = some field) : name ∈ r.names := by
  by_contra hunknown
  rw [field?_eq_none_iff.mpr hunknown] at h
  contradiction

/-- If names are not repeated, the field of a name stands where the name stands. -/
theorem getElem?_fields (hfield : r.field? name = some field) (hdistinct : r.names.Nodup)
    {position : Nat} (hposition : r.names[position]? = some name) :
    r.fields[position]? = some field := by
  rw [names, List.getElem?_map] at hposition
  obtain ⟨other, hother, hname⟩ := Option.map_eq_some_iff.mp hposition
  have hsame : other.name = field.name := by
    rw [hname]
    have hfound := List.find?_some hfield
    exact (beq_iff_eq.mp hfound).symm
  rw [hother, List.inj_on_of_nodup_map hdistinct (List.mem_of_getElem? hother)
    (List.mem_of_find?_eq_some hfield) hsame]

/-- A member of a field is read as the field is. -/
theorem asks_readMembers (hfield : r.field? name = some field) (source : Source)
    (pre post : List (String × Json)) (seen : List String) (draft : δ) :
    Asks (fun x => r.readMembers source (pre ++ (name, x) :: post) seen draft)
      (field.read source) := by
  intro readable
  induction pre generalizing seen draft with
  | nil =>
    simp only [List.nil_append, readMembers, hfield]
    split
    · exact .inl ⟨_, fun _ _ => rfl⟩
    · refine .inr ⟨fun put => r.readMembers source post (name :: seen) (put draft), fun x _ => ?_⟩
      cases field.read source x <;> rfl
  | cons member rest ih =>
    obtain ⟨other, json⟩ := member
    simp only [List.cons_append, readMembers]
    split
    · split
      · exact .inl ⟨_, fun _ _ => rfl⟩
      · split
        · exact ih seen draft
        · exact .inl ⟨_, fun _ _ => rfl⟩
    · split
      · exact .inl ⟨_, fun _ _ => rfl⟩
      · split
        · exact .inl ⟨_, fun _ _ => rfl⟩
        · exact ih _ _

/-- A member of a field is decoded as the field is. -/
theorem delegates_member (hfield : r.field? name = some field) (pre post : List (String × Json)) :
    r.decoder.Delegates field.read fun x => .object (pre ++ (name, x) :: post) where
  asks source := by
    refine ⟨source, ?_⟩
    have hbind (members : List (String × Json)) :
        r.ofMembers source members = r.readMembers source members [] r.blank >>= fun read =>
          (r.fields.find? fun field => field.required && !read.1.contains field.name).elim
            (.ok read.2) fun field => .error (.missingField field.name) := by
      unfold ofMembers
      cases r.readMembers source members [] r.blank with
      | error e => rfl
      | ok read =>
        dsimp only [bind, Except.bind]
        cases r.fields.find? _ <;> rfl
    simp only [decoder, hbind]
    exact (asks_readMembers hfield source pre post [] r.blank).bind _
  readable := ⟨_, readable_object_insert pre post name⟩

/-- An item in the position of a field is read as the field is. -/
theorem asks_readItems {fields : List (RecordField δ)} {pre : List Json}
    (hfield : fields[pre.length]? = some field) (source : Source) (post : List Json) (count : Nat)
    (draft : δ) :
    Asks (fun x => r.readItems source fields (pre ++ x :: post) count draft)
      (field.read source) := by
  intro readable
  induction pre generalizing fields count draft with
  | nil =>
    obtain ⟨rest, rfl⟩ : ∃ rest, fields = field :: rest := by
      cases fields with
      | nil => contradiction
      | cons first rest => exact ⟨rest, by rw [Option.some.inj hfield]⟩
    refine .inr ⟨fun put => r.readItems source rest post (count + 1) (put draft), fun x _ => ?_⟩
    simp only [List.nil_append, readItems]
    cases field.read source x <;> rfl
  | cons item others ih =>
    cases fields with
    | nil => contradiction
    | cons first rest =>
      simp only [List.cons_append, readItems]
      split
      · exact .inl ⟨_, fun _ _ => rfl⟩
      · exact ih hfield _ _

/-- An item in the position of a field is decoded as the field is. -/
theorem delegates_item {pre : List Json} (hfield : r.fields[pre.length]? = some field)
    (post : List Json) : r.decoder.Delegates field.read fun x => .array (pre ++ x :: post) where
  asks source := by
    refine ⟨source, ?_⟩
    have hbind : ∃ next, ∀ x, r.ofItems source (pre ++ x :: post) =
        r.readItems source r.fields (pre ++ x :: post) 0 r.blank >>= next := by
      -- what items are left over for depends on the source, and on how many items there were
      let length := pre.length + (post.length + 1)
      let expected := toString r.fields.length ++
        (if r.fields.length = 1 then " element" else " elements") ++ " in sequence"
      refine ⟨fun read =>
        if read.1.isEmpty then .ok read.2
        else if source = .stream then .error .unreadable
        else if source = .buffer then .error (.wrongLength length expected)
        else if source = .tree then .error (.wrongLength length "fewer elements in array")
        else .ok read.2, fun x => ?_⟩
      unfold ofItems
      rw [List.length_append, List.length_cons]
      rcases r.readItems source r.fields (pre ++ x :: post) 0 r.blank with e | ⟨_ | _, draft⟩
      · rfl
      · rfl
      · cases source <;> rfl
    obtain ⟨next, hnext⟩ := hbind
    simp only [decoder, hnext]
    exact (asks_readItems hfield source post 0 r.blank).bind next
  readable := ⟨_, readable_array_insert pre post⟩

end Record

end Delegation

/-! ### Unknown members -/

namespace Record

variable {δ : Type} {r : Record δ}

/-- Every member that a strict record reads is read as the field of its name. -/
theorem exists_field_of_readMembers (hstrict : r.strict = true) {source : Source}
    {members : List (String × Json)} {seen : List String} {draft : δ} {read : List String × δ}
    (h : r.readMembers source members seen draft = .ok read) :
    ∀ member ∈ members, ∃ field put,
      r.field? member.1 = some field ∧ field.read source member.2 = .ok put := by
  induction members generalizing seen draft with
  | nil => exact nofun
  | cons member rest ih =>
    obtain ⟨name, json⟩ := member
    unfold readMembers at h
    split at h
    · simp [hstrict] at h
    · rename_i field hfield
      split at h
      · contradiction
      · split at h
        · contradiction
        · rename_i put hput
          exact List.forall_mem_cons.mpr ⟨⟨field, put, hfield, hput⟩, ih h⟩

/-- A strict record refuses an object with a member of an unknown name. -/
theorem refuses_object (hstrict : r.strict = true) {members : List (String × Json)}
    {member : String × Json} (hmember : member ∈ members) (hunknown : member.1 ∉ r.names) :
    r.decoder.Refuses (.object members) := by
  intro source draft h
  rw [decoder, ofMembers] at h
  split at h
  · contradiction
  · rename_i hread
    obtain ⟨field, -, hfield, -⟩ := exists_field_of_readMembers hstrict hread member hmember
    exact hunknown (mem_names_of_field? hfield)

/-- A record that is not strict passes over readable members of unknown names. -/
theorem readMembers_filter (hlenient : r.strict = false) (source : Source)
    {members : List (String × Json)} (hreadable : ∀ member ∈ members, member.2.readable = true)
    (seen : List String) (draft : δ) :
    r.readMembers source (members.filter fun member => member.1 ∈ r.names) seen draft =
      r.readMembers source members seen draft := by
  induction members generalizing seen draft with
  | nil => rfl
  | cons member rest ih =>
    obtain ⟨name, json⟩ := member
    rw [List.forall_mem_cons] at hreadable
    have hrest := ih hreadable.2
    cases hfield : r.field? name with
    | none =>
      have hunknown := field?_eq_none_iff.mp hfield
      rw [List.filter_cons_of_neg (by simpa using hunknown), hrest, readMembers, hfield]
      simp [hlenient, wellFormed_of_readable hreadable.1]
    | some field =>
      have hknown := mem_names_of_field? hfield
      rw [List.filter_cons_of_pos (by simpa using hknown), readMembers, readMembers, hfield]
      simp only [hrest]

/-- A record that is not strict does not tell a readable object from the one without the members of
unknown names. -/
theorem agrees_filter (hlenient : r.strict = false) {members : List (String × Json)}
    (hreadable : (object members).readable = true) :
    r.decoder.Agrees (.object members)
      (.object (members.filter fun member => member.1 ∈ r.names)) := by
  have hall : ∀ member ∈ members, member.2.readable = true := by
    rwa [readable, membersReadable_eq_all, List.all_eq_true] at hreadable
  constructor
  · rw [hreadable, readable, membersReadable_eq_all, eq_comm, List.all_eq_true]
    exact fun member hmember => hall member (List.mem_filter.mp hmember).1
  · intro source
    rw [decoder, decoder, ofMembers, ofMembers, readMembers_filter hlenient source hall]

end Record

/-! ### Documents that are read to the end -/

/-- Nothing is decoded from a text unless it is read throughout. -/
def Decoder.Legible {α : Type} (decoder : Decoder α) : Prop :=
  ∀ json a, decoder .stream json = .ok a → json.readable = true

namespace Decoder

/-- Strings are read throughout. -/
theorem legible_text : Decoder.text.Legible := by
  intro json s h
  unfold text at h
  split at h
  · rfl
  · exact absurd h (refuse_ne_ok _ _ _)

/-- Truth values are read throughout. -/
theorem legible_bool : Decoder.bool.Legible := by
  intro json b h
  unfold bool at h
  split at h
  · rfl
  · exact absurd h (refuse_ne_ok _ _ _)

variable {α : Type}

/-- Lists are read throughout if their items are. -/
theorem Legible.list {item : Decoder α} (h : item.Legible) : (Decoder.list item).Legible := by
  intro json decoded hdecoded
  unfold Decoder.list at hdecoded
  split at hdecoded
  case h_1 items =>
    rw [readable, allReadable_eq_all, List.all_eq_true]
    induction items generalizing decoded with
    | nil => exact nofun
    | cons first rest ih =>
      rw [List.mapM_cons] at hdecoded
      obtain ⟨a, ha, hrest⟩ := Decoded.of_bind_eq_ok hdecoded
      obtain ⟨others, hothers, -⟩ := Decoded.of_bind_eq_ok hrest
      exact List.forall_mem_cons.mpr ⟨h first a ha, ih others hothers⟩
  case h_2 =>
    exact absurd hdecoded (Decoded.bind_error_ne_ok _ _ _)
  case h_3 => exact absurd hdecoded (refuse_ne_ok _ _ _)

/-- A mapped decoder reads what the decoder reads. -/
theorem Legible.map {β : Type} {decoder : Decoder α} (h : decoder.Legible) (f : α → β) :
    Decoder.Legible fun source json => (decoder source json).map f := by
  intro json b hb
  obtain ⟨a, ha, -⟩ := Decoded.of_map_eq_ok hb
  exact h json a ha

end Decoder

/-- The contents of a variant are read throughout. -/
def Variant.Legible {α : Type} : Variant α → Prop
  | .unit _ _ => True
  | .content _ read => Decoder.Legible read

/-- What counts as the content of a variant without content in a text is readable. -/
theorem Variant.readable_of_isUnit {json : Json} (h : isUnit .stream json = true) :
    json.readable = true := by
  unfold isUnit at h
  split at h
  case h_1 => rfl
  all_goals contradiction

/-- The content of the variant that is chosen is readable. -/
theorem Variant.readable_of_ofMember {α : Type} {variants : List (Variant α)}
    (h : ∀ variant ∈ variants, variant.Legible) {member : String × Json} {a : α}
    (hchosen : ofMember variants .stream member = .ok a) : member.2.readable = true := by
  obtain ⟨variant, hfind, hcontent⟩ := Decoded.of_bind_eq_ok hchosen
  cases variant with
  | unit name value =>
    dsimp only at hcontent
    split at hcontent
    · exact readable_of_isUnit ‹_›
    · exact absurd hcontent (refuse_ne_ok _ _ _)
  | content name read => exact h _ (mem_of_find_eq_ok hfind).1 member.2 a hcontent

/-- A choice is read throughout if the contents of its variants are. -/
theorem Variant.legible_decoder {α : Type} {variants : List (Variant α)}
    (h : ∀ variant ∈ variants, variant.Legible) : (Variant.decoder variants).Legible := by
  intro json a ha
  unfold decoder at ha
  split at ha
  case h_1 => rfl
  case h_2 _ member =>
    rw [readable, membersReadable_eq_all, List.all_cons, readable_of_ofMember h ha]
    rfl
  case h_3 | h_4 => exact absurd ha (Decoded.bind_error_ne_ok _ _ _)
  all_goals contradiction

namespace Record

variable {δ : Type} {r : Record δ}

/-- Items are readable if all of them are read. -/
theorem readable_of_readItems {fields : List (RecordField δ)}
    (h : ∀ field ∈ fields, Decoder.Legible field.read) {items : List Json} {count : Nat}
    {draft draft' : δ} (hread : r.readItems .stream fields items count draft = .ok ([], draft')) :
    ∀ item ∈ items, item.readable = true := by
  induction fields generalizing items count draft with
  | nil =>
    obtain ⟨rfl, -⟩ := Prod.mk.inj (Except.ok.inj hread)
    exact nofun
  | cons field rest ih =>
    rw [List.forall_mem_cons] at h
    cases items with
    | nil => exact nofun
    | cons item others =>
      unfold readItems at hread
      split at hread
      · contradiction
      · rename_i put hput
        exact List.forall_mem_cons.mpr ⟨h.1 item put hput, ih h.2 hread⟩

/-- Strict records are read throughout if their fields are. -/
theorem legible_decoder (hstrict : r.strict = true)
    (h : ∀ field ∈ r.fields, Decoder.Legible field.read) : r.decoder.Legible := by
  intro json draft hdecoded
  unfold decoder at hdecoded
  split at hdecoded
  · unfold ofMembers at hdecoded
    split at hdecoded
    · contradiction
    · rename_i hread
      rw [readable, membersReadable_eq_all, List.all_eq_true]
      intro member hmember
      obtain ⟨field, put, hfield, hput⟩ := exists_field_of_readMembers hstrict hread member hmember
      exact h field (List.mem_of_find?_eq_some hfield) member.2 put hput
  · unfold ofItems at hdecoded
    split at hdecoded
    · contradiction
    · rename_i hread
      rw [readable, allReadable_eq_all, List.all_eq_true]
      exact readable_of_readItems h hread
    · contradiction
  · exact absurd hdecoded (Decoded.bind_error_ne_ok _ _ _)
  · exact absurd hdecoded (Decoded.bind_error_ne_ok _ _ _)
  · exact absurd hdecoded (refuse_ne_ok _ _ _)

end Record

end Contracts.Json
