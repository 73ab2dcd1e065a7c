import Contracts.Manifest.Basic
import Contracts.Proofs.Json.Reading
import Contracts.Proofs.Value.RoundTrip
import Contracts.Value.Order

/-!
# Documents that are read as trees first

A document is read as a value directly, or as a tree whose members are ordered by name, which is
turned into a value then. Both ways keep the shape of everything but objects, and they agree on
which objects are typed collections as long as no name is repeated, with one exception: directly an
object that only names an element type is read as a collection without items, and as a tree it is a
map with one entry.
-/

namespace Contracts

namespace Json

/-- No object holds a name twice. -/
def IsKeyed : Json → Prop
  | .object members => (members.map (·.1)).Nodup
  | _ => True

/-- An object whose only member is a text named `element`. -/
def IsLoneElement (json : Json) : Prop := ∃ element, json = .object [("element", .text element)]

/-- The members of a typed collection with its items, in either order. -/
def Collects (members : List (String × Json)) (element : String) (items : List Json) : Prop :=
  members.Perm [("element", .text element), ("items", .array items)]

end Json

namespace Value

/-- Items of a tree are read one by one. -/
theorem ofTrees_eq_map (items : List Json) : ofTrees items = items.map ofTree := by
  induction items with
  | nil => rfl
  | cons item rest ih => rw [ofTrees, ih, List.map_cons]

/-- Members of a tree are read one by one. -/
theorem ofNamedTrees_eq_map (members : List (String × Json)) :
    ofNamedTrees members = members.map fun member => (member.1, ofTree member.2) := by
  induction members with
  | nil => rfl
  | cons member rest ih => rw [ofNamedTrees, ih, List.map_cons]

/-- Read the members of an object, each with its name. -/
def readMembers (read : Json → Value) (members : List (String × Json)) : List (String × Value) :=
  members.map fun member => (member.1, read member.2)

@[simp] theorem map_fst_readMembers (read : Json → Value) (members : List (String × Json)) :
    (readMembers read members).map (·.1) = members.map (·.1) := by
  simp [readMembers]

/-- Neither a text nor a list. -/
def IsOther : Value → Prop
  | .text _ => False
  | .list _ => False
  | _ => True

/-- An integer is read as a number. -/
theorem isOther_ofInteger (i : Int) : (ofInteger i).IsOther := by
  unfold ofInteger
  split <;> trivial

/-- The members of an object are read as a collection or as a map. -/
theorem isOther_ofMembers (members : List (String × Value)) : (ofMembers members).IsOther := by
  unfold ofMembers
  split <;> trivial

/-- Ordered members are read as a collection or as a map. -/
theorem isOther_ofSorted (members : List (String × Value)) : (ofSorted members).IsOther := by
  unfold ofSorted
  split <;> trivial

/-- A way of reading that reads texts as texts, arrays as lists, and nothing else as one of them. -/
structure KeepsShape (read : Json → Value) : Prop where
  text : ∀ s, read (.text s) = .text s
  array : ∀ items, read (.array items) = .list (items.map read)
  other : ∀ {json : Json}, (∀ s, json ≠ .text s) → (∀ items, json ≠ .array items) →
    (read json).IsOther

/-- Reading a document directly keeps shapes. -/
theorem keepsShape_ofJson : KeepsShape ofJson where
  text _ := rfl
  array items := by rw [ofJson, ofItems_eq_map]
  other {json} htext harray := by
    cases json with
    | integer i => exact isOther_ofInteger i
    | object members => exact isOther_ofMembers _
    | text s => exact absurd rfl (htext s)
    | array items => exact absurd rfl (harray items)
    | _ => trivial

/-- Reading a document as a tree keeps shapes. -/
theorem keepsShape_ofTree : KeepsShape ofTree where
  text _ := rfl
  array items := by rw [ofTree, ofTrees_eq_map]
  other {json} htext harray := by
    cases json with
    | integer i => exact isOther_ofInteger i
    | object members => exact isOther_ofSorted _
    | text s => exact absurd rfl (htext s)
    | array items => exact absurd rfl (harray items)
    | _ => trivial

namespace KeepsShape

variable {read : Json → Value} {members : List (String × Json)} {element : String}

/-- What is read as a text is one. -/
theorem eq_text (h : KeepsShape read) {json : Json} {s : String} (hread : read json = .text s) :
    json = .text s := by
  cases json with
  | text t => exact congrArg Json.text (text.inj ((h.text t).symm.trans hread))
  | array items => exact nomatch (h.array items).symm.trans hread
  | _ => exact (hread ▸ h.other (fun _ => nofun) fun _ => nofun : IsOther (.text s)).elim

/-- What is read as a list is an array. -/
theorem eq_array (h : KeepsShape read) {json : Json} {items : List Value}
    (hread : read json = .list items) : ∃ inner, json = .array inner := by
  cases json with
  | text t => exact nomatch (h.text t).symm.trans hread
  | array inner => exact ⟨inner, rfl⟩
  | _ => exact (hread ▸ h.other (fun _ => nofun) fun _ => nofun : IsOther (.list items)).elim

/-- What is read as a named text is a text with that name. -/
theorem eq_named_text (h : KeepsShape read) {member : String × Json} {name s : String}
    (hmember : (member.1, read member.2) = (name, .text s)) : member = (name, .text s) := by
  obtain ⟨hname, hread⟩ := Prod.mk.inj hmember
  exact Prod.ext hname (h.eq_text hread)

/-- What is read as a named list is an array with that name. -/
theorem eq_named_array (h : KeepsShape read) {member : String × Json} {name : String}
    {items : List Value} (hmember : (member.1, read member.2) = (name, .list items)) :
    ∃ inner, member = (name, .array inner) := by
  obtain ⟨hname, hread⟩ := Prod.mk.inj hmember
  obtain ⟨inner, hinner⟩ := h.eq_array hread
  exact ⟨inner, Prod.ext hname hinner⟩

/-- The only member that was read names an element type in the document, too. -/
theorem isLoneElement (h : KeepsShape read) (hnames : NamesElement (readMembers read members)) :
    (Json.object members).IsLoneElement := by
  obtain ⟨element, hmembers⟩ := hnames
  obtain ⟨member, rfl, hmember⟩ := List.map_eq_singleton_iff.mp hmembers
  exact ⟨element, by rw [h.eq_named_text hmember]⟩

/-- The members of a typed collection form one when they have been read. -/
theorem collects (h : KeepsShape read) {items : List Json}
    (hcollects : Json.Collects members element items) :
    Collects (readMembers read members) element (items.map read) := by
  have hread := hcollects.map fun member => (member.1, read member.2)
  simpa [Collects, readMembers, h.text, h.array] using hread

/-- Members that form a typed collection when they have been read form one in the document. -/
theorem exists_collects (h : KeepsShape read) {items : List Value}
    (hcollects : Collects (readMembers read members) element items) :
    ∃ inner, Json.Collects members element inner := by
  rcases (collects_iff _ _ _).mp hcollects with hmembers | hmembers
  · obtain ⟨first, rest, rfl, hfirst, hrest⟩ := List.map_eq_cons_iff.mp hmembers
    obtain ⟨second, rfl, hsecond⟩ := List.map_eq_singleton_iff.mp hrest
    obtain ⟨inner, rfl⟩ := h.eq_named_array hsecond
    exact ⟨inner, by rw [h.eq_named_text hfirst]; exact List.Perm.refl _⟩
  · obtain ⟨first, rest, rfl, hfirst, hrest⟩ := List.map_eq_cons_iff.mp hmembers
    obtain ⟨second, rfl, hsecond⟩ := List.map_eq_singleton_iff.mp hrest
    obtain ⟨inner, rfl⟩ := h.eq_named_array hfirst
    exact ⟨inner, by rw [h.eq_named_text hsecond]; exact List.Perm.swap ..⟩

end KeepsShape

section Objects

variable {members : List (String × Json)}

/-- An object that only names an element type is read directly as a collection without items. -/
theorem ofJson_loneElement (element : String) :
    ofJson (.object [("element", .text element)]) = .collection element [] :=
  rfl

/-- Read directly, the members of a typed collection stand for it. -/
theorem ofJson_of_collects {element : String} {items : List Json}
    (h : Json.Collects members element items) :
    ofJson (.object members) = .collection element (items.map ofJson) := by
  rw [ofJson, ofNamed_eq_map]
  exact ofMembers_of_collects (keepsShape_ofJson.collects h)

/-- Read directly, any other members with distinct names are the entries of a map. -/
theorem ofJson_of_not_collects (hkeyed : (Json.object members).IsKeyed)
    (hlone : ¬(Json.object members).IsLoneElement)
    (hcollects : ∀ element items, ¬Json.Collects members element items) :
    ofJson (.object members) = .map (readMembers ofJson members) := by
  have hone : ¬NamesElement (readMembers ofJson members) := fun h =>
    hlone (keepsShape_ofJson.isLoneElement h)
  have htwo : ∀ element items, ¬Collects (readMembers ofJson members) element items := by
    intro element items h
    obtain ⟨inner, hinner⟩ := keepsShape_ofJson.exists_collects h
    exact hcollects element inner hinner
  have hnodup : ((readMembers ofJson members).map (·.1)).Nodup := by
    rwa [map_fst_readMembers]
  rw [ofJson, ofNamed_eq_map]
  exact (ofMembers_of_not_collects hone htwo).trans (congrArg map (Entries.ofList_eq_self hnodup))

/-- The members of a typed collection are ordered alike, whichever stands first. -/
theorem sortByName_of_collects {members : List (String × Value)} {element : String}
    {items : List Value} (h : Collects members element items) :
    sortByName members = [("element", .text element), ("items", .list items)] := by
  have hfirst : "element" < "items" := by decide
  have hsecond : ¬"items" < "element" := by decide
  rcases (collects_iff _ _ _).mp h with rfl | rfl
  · simp [sortByName, insertByName, hsecond]
  · simp [sortByName, insertByName, hfirst]

/-- Read as a tree, the members of a typed collection stand for it. -/
theorem ofTree_of_collects {element : String} {items : List Json}
    (h : Json.Collects members element items) :
    ofTree (.object members) = .collection element (items.map ofTree) := by
  have hsorted := sortByName_of_collects (keepsShape_ofTree.collects h)
  rw [ofTree, ofNamedTrees_eq_map]
  exact congrArg ofSorted hsorted

/-- Read as a tree, any other members with distinct names are the entries of a map in some order. -/
theorem ofTree_of_not_collects (hkeyed : (Json.object members).IsKeyed)
    (hcollects : ∀ element items, ¬Json.Collects members element items) :
    ∃ entries, entries.Perm (readMembers ofTree members) ∧
      ofTree (.object members) = .map entries := by
  have hnodup : ((readMembers ofTree members).map (·.1)).Nodup := by
    rwa [map_fst_readMembers]
  have hperm := sortByName_perm hnodup
  refine ⟨sortByName (readMembers ofTree members), hperm, ?_⟩
  rw [ofTree, ofNamedTrees_eq_map]
  change ofSorted (sortByName (readMembers ofTree members)) = _
  generalize sortByName (readMembers ofTree members) = sorted at hperm ⊢
  unfold ofSorted
  split
  · obtain ⟨inner, hinner⟩ := keepsShape_ofTree.exists_collects hperm.symm
    exact absurd hinner (hcollects _ inner)
  · rfl

end Objects

/-- Two ways of reading items agree if they agree on every item. -/
theorem sameItems_map_iff (f g : Json → Value) (items : List Json) :
    sameItems (items.map f) (items.map g) = true ↔
      ∀ item ∈ items, (f item).same (g item) = true := by
  induction items with
  | nil => exact iff_of_true rfl nofun
  | cons item rest ih =>
    rw [List.map_cons, List.map_cons, sameItems, Bool.and_eq_true, ih, List.forall_mem_cons]

/-- All entries are found in a map if each of them is. -/
theorem sameEntries_iff (entries others : List (String × Value)) :
    sameEntries entries others = true ↔ ∀ entry ∈ entries, ∃ other,
      Entries.get? others entry.1 = some other ∧ entry.2.same other = true := by
  induction entries with
  | nil => exact iff_of_true rfl nofun
  | cons entry rest ih =>
    rw [sameEntries, Bool.and_eq_true, ih, List.forall_mem_cons]
    cases hfound : Entries.get? others entry.1 with
    | none => simp
    | some other => simp

/-- Two ways of reading the members of a map agree if they agree on the value of every member, in
whatever order the members of one of them are. -/
theorem same_map_iff (f g : Json → Value) {members : List (String × Json)}
    (hkeyed : (members.map (·.1)).Nodup) {entries : List (String × Value)}
    (hperm : entries.Perm (readMembers g members)) :
    (map (readMembers f members)).same (.map entries) = true ↔
      ∀ value ∈ members.map (·.2), (f value).same (g value) = true := by
  have hlength : (readMembers f members).length = entries.length := by
    rw [hperm.length_eq, readMembers, readMembers, List.length_map, List.length_map]
  have hnodup : (entries.map (·.1)).Nodup := by
    rwa [(hperm.map (·.1)).nodup_iff, map_fst_readMembers]
  have hfound : ∀ member ∈ members, Entries.get? entries member.1 = some (g member.2) :=
    fun member hmember => Entries.get?_of_mem hnodup
      (hperm.mem_iff.mpr (List.mem_map.mpr ⟨member, hmember, rfl⟩))
  rw [same, hlength, beq_self_eq_true, Bool.true_and, sameEntries_iff, readMembers,
    List.forall_mem_map, List.forall_mem_map]
  constructor
  · intro h member hmember
    obtain ⟨other, hother, hsame⟩ := h member hmember
    rwa [Option.some.inj ((hfound member hmember).symm.trans hother)]
  · intro h member hmember
    exact ⟨_, hfound member hmember, h member hmember⟩

/-- A number that is one is the same as itself. -/
theorem same_float {x : Binary64} (h : x ≠ .nan) : (float x).same (.float x) = true := by
  obtain ⟨place, hplace⟩ : ∃ place, x.place? = some place := by
    cases x with
    | nan => contradiction
    | infinite negative => exact ⟨_, rfl⟩
    | finite x => exact ⟨_, rfl⟩
  have hequal : place.compare place = .eq := by cases place <;> simp [Place.compare]
  simp [same, Binary64.same, Binary64.compare?, hplace, hequal]

/-- An integer is the same as itself. -/
theorem same_ofInteger (i : Int) : (ofInteger i).same (ofInteger i) = true := by
  unfold ofInteger
  split
  · simp [same]
  · exact same_float (Binary64.ofQuotient_ne_nan _ _ _)

/-- Both readings of an object agree if it does not just name an element type and they agree on the
values of all members. -/
theorem same_object_iff {members : List (String × Json)}
    (hkeyed : (Json.object members).IsKeyed) :
    (ofJson (.object members)).same (ofTree (.object members)) = true ↔
      ¬(Json.object members).IsLoneElement ∧
        ∀ value ∈ members.map (·.2), (ofJson value).same (ofTree value) = true := by
  by_cases hcollects : ∃ element items, Json.Collects members element items
  · obtain ⟨element, items, hmembers⟩ := hcollects
    have hlone : ¬(Json.object members).IsLoneElement := by
      rintro ⟨other, hother⟩
      rw [Json.object.inj hother] at hmembers
      exact nomatch hmembers.length_eq
    -- the element type is read alike in any case, so that only the array of the items is left
    have hvalues (value : Json) := (hmembers.map (·.2)).mem_iff (a := value)
    rw [ofJson_of_collects hmembers, ofTree_of_collects hmembers, same, beq_self_eq_true,
      Bool.true_and]
    simp only [hvalues, List.map_cons, List.map_nil, List.forall_mem_cons]
    rw [keepsShape_ofJson.array, keepsShape_ofTree.array]
    simp [hlone, same, keepsShape_ofJson.text, keepsShape_ofTree.text]
  · have hnone : ∀ element items, ¬Json.Collects members element items :=
      fun element items h => hcollects ⟨element, items, h⟩
    -- as a tree the object is a map; only a lone element type is no map when it is read directly
    obtain ⟨entries, hperm, htree⟩ := ofTree_of_not_collects hkeyed hnone
    by_cases hlone : (Json.object members).IsLoneElement
    · refine iff_of_false ?_ fun h => h.1 hlone
      obtain ⟨element, helement⟩ := hlone
      rw [htree, helement, ofJson_loneElement]
      exact nofun
    · rw [ofJson_of_not_collects hkeyed hlone hnone, htree, same_map_iff _ _ hkeyed hperm]
      exact (and_iff_right hlone).symm

/-- Both readings of a document whose objects hold every name once, and whose numbers are numbers,
agree if and only if no object in it just names an element type. -/
theorem same_ofTree_iff (json : Json) (hkeyed : Everywhere Json.IsKeyed json)
    (hnumeric : json.IsNumeric) :
    (ofJson json).same (ofTree json) = true ↔ Everywhere (¬·.IsLoneElement) json := by
  induction json using induction_children with
  | step json ih =>
    obtain ⟨hkeyed, hkeyedInside⟩ := everywhere_iff.mp hkeyed
    obtain ⟨hnumber, hnumeric⟩ := everywhere_iff.mp hnumeric
    have hinside : ∀ child ∈ Nested.children json,
        ((ofJson child).same (ofTree child) = true ↔ Everywhere (¬·.IsLoneElement) child) :=
      fun child hchild => ih child hchild (hkeyedInside child hchild) (hnumeric child hchild)
    rw [everywhere_iff, ← forall₂_congr hinside]
    cases json with
    | integer i => exact iff_of_true (same_ofInteger i) ⟨nofun, nofun⟩
    | real x => exact iff_of_true (same_float fun h => hnumber (congrArg _ h)) ⟨nofun, nofun⟩
    | array items =>
      rw [keepsShape_ofJson.array, keepsShape_ofTree.array, same, sameItems_map_iff]
      exact ⟨fun h => ⟨nofun, h⟩, fun h => h.2⟩
    | object members => exact same_object_iff hkeyed
    | bool b => exact iff_of_true (beq_self_eq_true b) ⟨nofun, nofun⟩
    | text s => exact iff_of_true (beq_self_eq_true s) ⟨nofun, nofun⟩
    | _ => exact iff_of_true rfl ⟨nofun, nofun⟩

/-- What holds nothing is read alike in both ways. -/
theorem ofJson_eq_ofTree_of_leaf {json : Json} (h : json.children = []) :
    ofJson json = ofTree json := by
  cases json with
  | array items =>
    obtain rfl : items = [] := h
    rfl
  | object members =>
    obtain rfl : members = [] := List.map_eq_nil_iff.mp h
    rfl
  | _ => rfl

/-- A text that is a document throughout is read as a value. -/
theorem decodeText_of_read? {text : String} {json : Json} (h : Json.read? text = some json) :
    Json.decodeText decoder text = .ok (ofJson json) := by
  obtain ⟨hdocument, hreadable⟩ := Json.ofText_of_read? h
  rw [Json.decodeText, hdocument, decoder, if_pos hreadable]
  rfl

/-- The two ways of reading. A text that is a document without repeated names is read directly, and
what is read is the same, whatever the order of members, as the value of the tree of the document,
if and only if no object in it consists of a text named `element` alone. What holds nothing, such as
a number, is read alike in either case. -/
theorem decodeText_same_ofTree_iff {text : String} {json : Json}
    (hread : Json.read? text = some json) (hkeyed : Everywhere Json.IsKeyed json) :
    ∃ direct, Json.decodeText decoder text = .ok direct ∧
      (direct.same (ofTree json) = true ↔ ∀ part, IsPartOf part json → ¬part.IsLoneElement) ∧
      ∀ part, IsPartOf part json → part.children = [] → ofJson part = ofTree part := by
  refine ⟨ofJson json, decodeText_of_read? hread, ?_, fun part _ => ofJson_eq_ofTree_of_leaf⟩
  exact same_ofTree_iff json hkeyed (Json.isNumeric_of_read? hread)

/-- An invoice with a typed collection, and with two objects that almost are one. -/
def invoiceText : String :=
  "\x7b\"lines\":\x7b\"items\":[9007199254740993,-0],\"element\":\"Line\"\x7d," ++
    "\"total\":\x7b\"element\":\"EUR\",\"items\":7\x7d,\"notes\":[\x7b\"element\":null\x7d]\x7d"

/-- The document of the invoice. -/
def invoice : Json :=
  .object [
    ("lines", .object [
      ("items", .array [.integer 9007199254740993, .real (.ofQuotient true 0 1)]),
      ("element", .text "Line")]),
    ("total", .object [("element", .text "EUR"), ("items", .integer 7)]),
    ("notes", .array [.object [("element", .null)]])]

open Json.Token in
set_option maxRecDepth 10000 in
/-- The words of the invoice. -/
theorem cut_invoiceText : Json.Token.cut invoiceText.toList = [
    openObject,
    scalar (.text "lines"), colon, openObject,
    scalar (.text "items"), colon, openArray,
    scalar (.integer 9007199254740993), comma, scalar (.real (.ofQuotient true 0 1)),
    closeArray, comma, scalar (.text "element"), colon, scalar (.text "Line"), closeObject, comma,
    scalar (.text "total"), colon, openObject,
    scalar (.text "element"), colon, scalar (.text "EUR"), comma,
    scalar (.text "items"), colon, scalar (.integer 7), closeObject, comma,
    scalar (.text "notes"), colon, openArray, openObject,
    scalar (.text "element"), colon, scalar .null, closeObject, closeArray,
    closeObject] := by
  with_unfolding_all rfl

/-- The text of the invoice is that of its document. -/
theorem read?_invoiceText : Json.read? invoiceText = some invoice := by
  have hdocument : Json.Document.ofText invoiceText = ⟨invoice, false⟩ := by
    rw [Json.Document.ofText, cut_invoiceText]
    rfl
  rw [Json.read?, hdocument]
  rfl

/-- Both ways of reading the invoice give the same. -/
theorem decodeText_same_ofTree_iff_invoice :
    Json.read? invoiceText = some invoice ∧ Everywhere Json.IsKeyed invoice ∧
      ∃ direct, Json.decodeText decoder invoiceText = .ok direct ∧
        direct.same (ofTree invoice) = true := by
  have hkeyed : Everywhere Json.IsKeyed invoice := by
    simp [invoice, Json.everywhere_object, Json.everywhere_array, Json.everywhere_leaf,
      Json.IsKeyed]
  have hlone : Everywhere (¬·.IsLoneElement) invoice := by
    simp [invoice, Json.everywhere_object, Json.everywhere_array, Json.everywhere_leaf,
      Json.IsLoneElement]
  obtain ⟨direct, hdirect, hsame, -⟩ := decodeText_same_ofTree_iff read?_invoiceText hkeyed
  exact ⟨read?_invoiceText, hkeyed, direct, hdirect, hsame.mpr hlone⟩

/-- An object that just names an element type is read as a collection, and as a tree as a map. -/
example : (ofJson (.object [("element", .text "Line")])).same
    (ofTree (.object [("element", .text "Line")])) = false := by
  rfl

end Value

end Contracts
