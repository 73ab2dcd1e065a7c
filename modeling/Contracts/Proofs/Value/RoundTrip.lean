import Contracts.Proofs.Parts
import Contracts.Proofs.Value.Objects

/-!
# Values that are read back

A value that is written as a document is read back from the shape of the document alone. What is
read is the value that was written, unless something in it has the shape of something else: a number
that is not finite is written as null, and a map whose entries look like the members of a typed
collection is read as one.
-/

namespace Contracts.Value

/-- Items are written one by one. -/
theorem toItems_eq_map (items : List Value) : toItems items = items.map toJson := by
  induction items with
  | nil => rfl
  | cons item rest ih => rw [toItems, ih, List.map_cons]

/-- Entries are written one by one. -/
theorem toMembers_eq_map (entries : List (String × Value)) :
    toMembers entries = entries.map fun entry => (entry.1, entry.2.toJson) := by
  induction entries with
  | nil => rfl
  | cons entry rest ih => rw [toMembers, ih, List.map_cons]

/-- Items are read one by one. -/
theorem ofItems_eq_map (items : List Json) : ofItems items = items.map ofJson := by
  induction items with
  | nil => rfl
  | cons item rest ih => rw [ofItems, ih, List.map_cons]

/-- Members are read one by one. -/
theorem ofNamed_eq_map (members : List (String × Json)) :
    ofNamed members = members.map fun member => (member.1, ofJson member.2) := by
  induction members with
  | nil => rfl
  | cons member rest ih => rw [ofNamed, ih, List.map_cons]

/-- An integer of 64 bits is read as it is. -/
theorem ofInteger_toInt (i : Int64) : ofInteger i.toInt = .int i := by
  rw [ofInteger, if_pos ⟨i.minValue_le_toInt, i.toInt_le⟩, Int64.ofInt_toInt]

/-- Items that are written as documents form a document. -/
theorem allReadable_toItems {items : List Value}
    (h : ∀ item ∈ items, item.toJson.readable = true) :
    Json.allReadable (toItems items) = true := by
  induction items with
  | nil => rfl
  | cons item rest ih =>
    rw [List.forall_mem_cons] at h
    rw [toItems, Json.allReadable, h.1, ih h.2, Bool.and_self]

/-- Entries that are written as documents form a document. -/
theorem membersReadable_toMembers {entries : List (String × Value)}
    (h : ∀ entry ∈ entries, entry.2.toJson.readable = true) :
    Json.membersReadable (toMembers entries) = true := by
  induction entries with
  | nil => rfl
  | cons entry rest ih =>
    rw [List.forall_mem_cons] at h
    rw [toMembers, Json.membersReadable, h.1, ih h.2, Bool.and_self]

/-- What is read back from the document of a value. -/
def reread (v : Value) : Value := ofJson v.toJson

@[simp] theorem reread_list (items : List Value) :
    (list items).reread = .list (items.map reread) := by
  simp [reread, toJson, ofJson, toItems_eq_map, ofItems_eq_map, Function.comp_def]

@[simp] theorem reread_collection (element : String) (items : List Value) :
    (collection element items).reread = .collection element (items.map reread) := by
  simp [reread, toJson, ofJson, ofNamed, ofMembers, toItems_eq_map, ofItems_eq_map,
    Function.comp_def]

@[simp] theorem reread_map (entries : List (String × Value)) :
    (map entries).reread = ofMembers (entries.map fun entry => (entry.1, entry.2.reread)) := by
  simp [reread, toJson, ofJson, toMembers_eq_map, ofNamed_eq_map, Function.comp_def]

/-- No map holds a name twice. -/
def IsKeyed : Value → Prop
  | .map entries => (entries.map (·.1)).Nodup
  | _ => True

/-- A value whose own shape is not the one that its document is read as. -/
inductive IsMisread : Value → Prop where
  /-- A number that is not finite. -/
  | number {x : Binary64} (h : x.isFinite = false) : IsMisread (.float x)
  /-- A map whose only entry is a text named `element`. -/
  | element (element : String) : IsMisread (.map [("element", .text element)])
  /-- A map of a text named `element` and a list named `items`, in either order. -/
  | items {entries : List (String × Value)} {element : String} {items : List Value}
    (h : entries.Perm [("element", .text element), ("items", .list items)]) :
    IsMisread (.map entries)

/-- A map is misread if its entries are the members of a typed collection. -/
theorem isMisread_map_iff (entries : List (String × Value)) :
    (map entries).IsMisread ↔
      NamesElement entries ∨ ∃ element items, Collects entries element items := by
  constructor
  · rintro (_ | element | h)
    · exact .inl ⟨element, rfl⟩
    · exact .inr ⟨_, _, h⟩
  · rintro (⟨element, rfl⟩ | ⟨element, items, h⟩)
    · exact .element element
    · exact .items h

/-- Members are read as the map of some entries if these are the members, with distinct names, and
not those of a typed collection. -/
theorem ofMembers_eq_map_iff {members entries : List (String × Value)}
    (hnames : members.map (·.1) = entries.map (·.1)) :
    ofMembers members = .map entries ↔
      members = entries ∧ (map entries).IsKeyed ∧ ¬(map entries).IsMisread := by
  rw [isMisread_map_iff, not_or]
  constructor
  · intro h
    have hone : ¬NamesElement members := by
      rintro ⟨element, rfl⟩
      contradiction
    have htwo : ∀ element items, ¬Collects members element items := by
      intro element items hcollects
      rw [ofMembers_of_collects hcollects] at h
      contradiction
    rw [ofMembers_of_not_collects hone htwo, map.injEq] at h
    have hnodup : (entries.map (·.1)).Nodup := h ▸ Entries.nodup_ofList members
    obtain rfl : members = entries := by rwa [Entries.ofList_eq_self (hnames ▸ hnodup)] at h
    exact ⟨rfl, hnodup, hone, fun ⟨element, items, hcollects⟩ => htwo element items hcollects⟩
  · rintro ⟨rfl, hkeyed, hone, htwo⟩
    rw [ofMembers_of_not_collects hone fun element items h => htwo ⟨element, items, h⟩,
      Entries.ofList_eq_self hkeyed]

/-- Items are read back if each of them is. -/
theorem map_reread_eq_self_iff (items : List Value) :
    items.map reread = items ↔ ∀ item ∈ items, item.reread = item := by
  simpa using List.map_inj_left (l := items) (f := reread) (g := id)

/-- Entries are read back if their values are. -/
theorem map_entry_reread_eq_self_iff (entries : List (String × Value)) :
    (entries.map fun entry => (entry.1, entry.2.reread)) = entries ↔
      ∀ value ∈ entries.map (·.2), value.reread = value := by
  rw [List.forall_mem_map]
  simpa using
    List.map_inj_left (l := entries) (f := fun entry => (entry.1, entry.2.reread)) (g := id)

/-- A value is read back if and only if every map in it holds each name once and nothing in it is
misread. -/
theorem reread_eq_self_iff (v : Value) :
    v.reread = v ↔ Everywhere (fun part => part.IsKeyed ∧ ¬part.IsMisread) v := by
  induction v using induction_children with
  | step v ih =>
    rw [everywhere_iff, ← forall₂_congr ih]
    cases v with
    | null => exact iff_of_true rfl ⟨⟨trivial, nofun⟩, nofun⟩
    | bool b => exact iff_of_true rfl ⟨⟨trivial, nofun⟩, nofun⟩
    | int i => exact iff_of_true (ofInteger_toInt i) ⟨⟨trivial, nofun⟩, nofun⟩
    | text s => exact iff_of_true rfl ⟨⟨trivial, nofun⟩, nofun⟩
    | float x =>
      cases hx : x.isFinite with
      | true =>
        have hkept : (float x).reread = .float x := by simp [reread, toJson, hx, ofJson]
        refine iff_of_true hkept ⟨⟨trivial, ?_⟩, nofun⟩
        rintro ⟨hinfinite⟩
        simp [hx] at hinfinite
      | false =>
        have hlost : (float x).reread = .null := by simp [reread, toJson, hx, ofJson]
        rw [hlost]
        exact iff_of_false nofun fun h => h.1.2 (.number hx)
    | list items =>
      rw [reread_list, list.injEq, map_reread_eq_self_iff]
      exact ⟨fun h => ⟨⟨trivial, nofun⟩, h⟩, fun h => h.2⟩
    | collection element items =>
      rw [reread_collection, collection.injEq, map_reread_eq_self_iff]
      exact ⟨fun h => ⟨⟨trivial, nofun⟩, h.2⟩, fun h => ⟨rfl, h.2⟩⟩
    | map entries =>
      have hnames : (entries.map fun entry => (entry.1, entry.2.reread)).map (·.1) =
          entries.map (·.1) := by simp
      rw [reread_map, ofMembers_eq_map_iff hnames, map_entry_reread_eq_self_iff, and_comm]
      exact Iff.rfl

/-- What is written is a document. -/
theorem readable_toJson (v : Value) : v.toJson.readable = true := by
  induction v using induction_children with
  | step v ih =>
    cases v with
    | float x => cases hx : x.isFinite <;> simp [toJson, hx, Json.readable]
    | list items =>
      have hitems : Json.allReadable (toItems items) = true := allReadable_toItems ih
      simpa [toJson, Json.readable] using hitems
    | collection element items =>
      have hitems : Json.allReadable (toItems items) = true := allReadable_toItems ih
      simpa [toJson, Json.readable, Json.membersReadable] using hitems
    | map entries =>
      have hentries := membersReadable_toMembers fun entry hentry =>
        ih entry.2 (List.mem_map_of_mem hentry)
      simpa [toJson, Json.readable] using hentries
    | _ => rfl

/-- Writing and reading. A value is read back from its document, with the order of all maps and with
the signs of all zeros, if and only if no map in it holds a name twice and it contains nowhere a
number that is not finite or a map with the entries of a typed collection. -/
theorem decoder_toJson_eq_ok_iff (source : Json.Source) (v : Value) :
    decoder source v.toJson = .ok v ↔
      Everywhere IsKeyed v ∧ ∀ part, IsPartOf part v → ¬part.IsMisread := by
  have hdecoded : decoder source v.toJson = .ok v.reread := by
    rw [decoder, if_pos v.readable_toJson]
    rfl
  rw [hdecoded, Except.ok.injEq, reread_eq_self_iff, everywhere_and]
  exact Iff.rfl

/-- A map whose only entry names an element type is read as an empty collection. -/
example : decoder .stream (map [("element", .text "Order")]).toJson =
    .ok (.collection "Order" []) := rfl

end Contracts.Value
