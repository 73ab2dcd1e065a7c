import Contracts.Json.Decode
import Contracts.Proofs.Parts
import Mathlib.Data.List.Forall2
import Mathlib.Data.List.Perm.Basic

/-!
# Decoding in any order of members

The members of an object have no order of their own: a tree, for instance, keeps them in the order
of their names. A decoder that reads a document in this sense reads all documents that differ from
it in the order of members only, wherever they stand and wherever they come from. Records do, if
the fields of the record do not get into each other's way.
-/

namespace Contracts.Json

/-! ### Other orders of a document -/

/-- One document is another one with the members of its objects in some other order. -/
inductive Reorders : Json → Json → Prop where
  | leaf {json : Json} (h : json.children = []) : Reorders json json
  | array {items moved : List Json} (h : List.Forall₂ Reorders items moved) :
    Reorders (.array items) (.array moved)
  /-- The members change places, and then the value of each member is reordered. -/
  | object {members between moved : List (String × Json)} (hperm : members.Perm between)
    (hnames : between.map (·.1) = moved.map (·.1))
    (h : List.Forall₂ Reorders (between.map (·.2)) (moved.map (·.2))) :
    Reorders (.object members) (.object moved)

namespace Reorders

/-- A document may be left as it is. -/
theorem refl (json : Json) : json.Reorders json := by
  induction json using induction_children with
  | step json ih =>
    cases json with
    | array items => exact .array (List.forall₂_same.mpr ih)
    | object members => exact .object (.refl members) rfl (List.forall₂_same.mpr ih)
    | _ => exact .leaf rfl

/-- An array keeps the order of its items. -/
theorem of_array {items : List Json} {moved : Json} (h : Json.Reorders (.array items) moved) :
    ∃ items', moved = .array items' ∧ List.Forall₂ Reorders items items' := by
  cases h with
  | leaf _ => exact ⟨items, rfl, List.forall₂_same.mpr fun item _ => .refl item⟩
  | array h => exact ⟨_, rfl, h⟩

/-- An object keeps its names and, up to their order, their values. -/
theorem of_object {members : List (String × Json)} {moved : Json}
    (h : Json.Reorders (.object members) moved) :
    ∃ between members', moved = .object members' ∧ members.Perm between ∧
      between.map (·.1) = members'.map (·.1) ∧
      List.Forall₂ Reorders (between.map (·.2)) (members'.map (·.2)) := by
  cases h with
  | leaf _ =>
    have hsame : List.Forall₂ Reorders (members.map (·.2)) (members.map (·.2)) :=
      List.forall₂_same.mpr fun json _ => .refl json
    exact ⟨members, members, rfl, .refl members, rfl, hsame⟩
  | object hperm hnames h => exact ⟨_, _, rfl, hperm, hnames, h⟩

/-- An object with one member has no other order. -/
theorem of_singleton {member : String × Json} {moved : Json}
    (h : Json.Reorders (.object [member]) moved) :
    ∃ json, moved = .object [(member.1, json)] ∧ member.2.Reorders json := by
  obtain ⟨between, members, rfl, hperm, hnames, hjson⟩ := h.of_object
  obtain rfl := List.singleton_perm.mp hperm
  obtain ⟨other, rfl⟩ : ∃ other, members = [other] := by
    rw [← List.length_eq_one_iff, ← List.length_map (·.1), ← hnames]
    rfl
  obtain ⟨name, json⟩ := other
  obtain rfl : member.1 = name := List.head_eq_of_cons_eq hnames
  exact ⟨json, rfl, (List.forall₂_cons.mp hjson).1⟩

end Reorders

variable {α β δ : Type}

/-! ### What is read in any order -/

/-- A decoder reads something from a document in whatever order its members stand, and wherever it
comes from. -/
def Decoder.Reads (decoder : Decoder α) (json : Json) (a : α) : Prop :=
  ∀ source moved, json.Reorders moved → decoder source moved = .ok a

namespace Decoder

/-- A string is read. -/
theorem reads_text (s : String) : Decoder.text.Reads (.text s) s := by
  rintro source moved ⟨⟩
  rfl

/-- A truth value is read. -/
theorem reads_bool (b : Bool) : Decoder.bool.Reads (.bool b) b := by
  rintro source moved ⟨⟩
  rfl

/-- What is read may be mapped. -/
theorem Reads.map {decoder : Decoder α} {json : Json} {a : α} (h : decoder.Reads json a)
    (f : α → β) : Decoder.Reads (fun source json => (decoder source json).map f) json (f a) := by
  intro source moved hmoved
  change (decoder source moved).map f = _
  rw [h source moved hmoved]
  rfl

/-- A list is read if its items are. -/
theorem Reads.list {item : Decoder β} {toJson : α → Json} {f : α → β}
    (h : ∀ a, item.Reads (toJson a) (f a)) (as : List α) :
    (Decoder.list item).Reads (.array (as.map toJson)) (as.map f) := by
  intro source moved hmoved
  obtain ⟨items, rfl, hitems⟩ := hmoved.of_array
  change items.mapM (item source) = _
  clear hmoved
  induction as generalizing items with
  | nil =>
    cases hitems
    rfl
  | cons a as ih =>
    cases hitems with
    | cons hfirst hrest =>
      rw [List.mapM_cons, h a source _ hfirst, ih _ hrest]
      rfl

end Decoder

namespace Variant

variable {variants : List (Variant α)} {name : String} {a : α}

/-- A variant without content is read from its name. -/
theorem reads_unit (h : variants.find? (·.name == name) = some (.unit name a)) :
    (Variant.decoder variants).Reads (.text name) a := by
  rintro source moved ⟨⟩
  change ofName variants name = _
  rw [ofName, find, h]
  rfl

/-- A variant with content is read from an object if the content is. -/
theorem reads_content {read : Decoder α} {json : Json}
    (hfind : variants.find? (·.name == name) = some (.content name read))
    (h : read.Reads json a) : (Variant.decoder variants).Reads (.object [(name, json)]) a := by
  intro source moved hmoved
  obtain ⟨inner, rfl, hinner⟩ := hmoved.of_singleton
  have hchosen : ofMember variants source (name, inner) = .ok a := by
    rw [ofMember, find, hfind]
    exact h source inner hinner
  cases source <;> exact hchosen

end Variant

/-! ### Records -/

namespace Record

variable {r : Record δ} {source : Source} {members : List (String × Json)} {puts : List (δ → δ)}

/-- A member is read as a field and put into the draft. -/
def Puts (r : Record δ) (source : Source) (member : String × Json) (put : δ → δ) : Prop :=
  ∃ field, r.field? member.1 = some field ∧ field.read source member.2 = .ok put

/-- Members with distinct names are put into the draft one after the other. -/
theorem readMembers_of_puts (h : List.Forall₂ (r.Puts source) members puts) {seen : List String}
    (hnodup : (members.map (·.1)).Nodup) (hseen : ∀ name ∈ members.map (·.1), name ∉ seen)
    (draft : δ) :
    r.readMembers source members seen draft =
      .ok ((members.map (·.1)).reverse ++ seen,
        puts.foldl (fun draft put => put draft) draft) := by
  induction h generalizing seen draft with
  | nil => rfl
  | @cons member put members puts hmember _ ih =>
    obtain ⟨name, json⟩ := member
    obtain ⟨field, hfield, hput⟩ := hmember
    rw [List.map_cons, List.nodup_cons] at hnodup
    rw [List.map_cons, List.forall_mem_cons] at hseen
    have hrest : ∀ later ∈ members.map (·.1), later ∉ name :: seen := by
      intro later hlater hmem
      rcases List.mem_cons.mp hmem with rfl | hold
      · exact hnodup.1 hlater
      · exact hseen.2 later hlater hold
    have hnew : seen.contains name = false := by simpa using hseen.1
    rw [readMembers, hfield]
    simp only [hnew, hput]
    rw [if_neg Bool.false_ne_true, ih hnodup.2 hrest]
    simp

/-- A record is what its members put into the blank draft, if no required one is missing. -/
theorem ofMembers_of_puts (h : List.Forall₂ (r.Puts source) members puts)
    (hnodup : (members.map (·.1)).Nodup)
    (hrequired : ∀ field ∈ r.fields, field.required = true → field.name ∈ members.map (·.1)) :
    r.ofMembers source members = .ok (puts.foldl (fun draft put => put draft) r.blank) := by
  rw [ofMembers, readMembers_of_puts h hnodup fun _ _ => List.not_mem_nil]
  generalize members.map (·.1) = names at hrequired
  have hnone : r.fields.find? (fun field => field.required &&
      !(names.reverse ++ []).contains field.name) = none := by
    rw [List.find?_eq_none]
    intro field hfield
    cases hneeded : field.required with
    | false => simp
    | true => simpa using hrequired field hfield hneeded
  dsimp only
  rw [hnone]

/-- A member is read as a field and put into the draft, in whatever order the objects within it
are. -/
def Fills (r : Record δ) (member : String × Json) (put : δ → δ) : Prop :=
  ∀ source json, member.2.Reorders json → r.Puts source (member.1, json) put

/-- What the decoder of a field reads is put into the draft. -/
theorem fills_of {name : String} {required : Bool} {decoder : Decoder α} {put : α → δ → δ}
    (hfield : r.field? name = some (.of name required decoder put)) {json : Json} {a : α}
    (h : decoder.Reads json a) : r.Fills (name, json) (put a) :=
  fun source moved hmoved => ⟨_, hfield, h.map put source moved hmoved⟩

/-- Members put the same into the draft after their values have been reordered. -/
theorem puts_of_fills (h : List.Forall₂ r.Fills members puts) {moved : List (String × Json)}
    (hnames : members.map (·.1) = moved.map (·.1))
    (hmoved : List.Forall₂ Reorders (members.map (·.2)) (moved.map (·.2))) (source : Source) :
    List.Forall₂ (r.Puts source) moved puts := by
  induction h generalizing moved with
  | nil =>
    obtain rfl : moved = [] := List.map_eq_nil_iff.mp hnames.symm
    exact .nil
  | @cons member put members puts hmember _ ih =>
    cases moved with
    | nil => contradiction
    | cons other moved =>
      obtain ⟨name, json⟩ := other
      rw [List.map_cons, List.map_cons, List.forall₂_cons] at hmoved
      obtain ⟨hname, hothers⟩ := List.cons.inj hnames
      have hfirst := hmember source json hmoved.1
      rw [show member.1 = name from hname] at hfirst
      exact .cons hfirst (ih hothers hmoved.2)

/-- A record is read from the members of its fields in any order, if it does not matter in which
order they are put into the draft. -/
theorem reads_object (h : List.Forall₂ r.Fills members puts)
    (hnodup : (members.map (·.1)).Nodup)
    (hrequired : ∀ field ∈ r.fields, field.required = true → field.name ∈ members.map (·.1))
    (hcommute : ∀ put ∈ puts, ∀ put' ∈ puts, ∀ draft, put (put' draft) = put' (put draft))
    {d : δ} (hd : puts.foldl (fun draft put => put draft) r.blank = d) :
    r.decoder.Reads (.object members) d := by
  subst hd
  intro source moved hmoved
  obtain ⟨between, members', rfl, hperm, hnames, hjson⟩ := hmoved.of_object
  -- what the members put into the draft changes places with them
  obtain ⟨puts', hbetween, hputs⟩ := List.perm_comp_forall₂ hperm.symm h
  have hmembers := hperm.map (·.1)
  rw [hnames] at hmembers
  have hread := ofMembers_of_puts (puts_of_fills hbetween hnames hjson source)
    (hmembers.nodup hnodup) fun field hfield hneeded =>
      hmembers.mem_iff.mp (hrequired field hfield hneeded)
  refine hread.trans (congrArg _ (hputs.foldl_eq' (fun put hput put' hput' draft => ?_) r.blank))
  exact hcommute put' (hputs.mem_iff.mp hput') put (hputs.mem_iff.mp hput) draft

end Record

end Contracts.Json
