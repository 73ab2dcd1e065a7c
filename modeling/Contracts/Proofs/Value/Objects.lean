import Contracts.Value.Json
import Mathlib.Data.List.Perm.Basic

/-!
# What an object stands for

An object is read as a typed collection or as a map. Which of them it is follows from its members,
not from their order: a typed collection has the member `element`, a text, and either no other one
or just `items`, a list. The members of all other objects are the entries of a map. Where no name is
repeated, these are the members as they stand, or the members in the order of their names if the
document was read as a tree first.
-/

namespace Contracts.Value

namespace Entries

variable {entries kept : List (String × Value)} {name : String} {value : Value}

/-- A new name goes to the end. -/
theorem put_of_notMem (h : name ∉ entries.map (·.1)) :
    put entries name value = entries ++ [(name, value)] := by
  induction entries with
  | nil => rfl
  | cons entry rest ih =>
    obtain ⟨n, v⟩ := entry
    rw [List.map_cons, List.mem_cons, not_or] at h
    rw [put, if_neg (Ne.symm h.1), ih h.2, List.cons_append]

/-- A known name keeps its place, and the names stay as they are. -/
theorem map_fst_put_of_mem (h : name ∈ entries.map (·.1)) :
    (put entries name value).map (·.1) = entries.map (·.1) := by
  induction entries with
  | nil => contradiction
  | cons entry rest ih =>
    obtain ⟨n, v⟩ := entry
    by_cases hn : n = name
    · simp [put, hn]
    · have hrest : name ∈ rest.map (·.1) := by
        rcases List.mem_cons.mp h with heq | hmem
        · exact absurd heq.symm hn
        · exact hmem
      rw [put, if_neg hn, List.map_cons, List.map_cons, ih hrest]

/-- Putting an entry keeps names distinct. -/
theorem nodup_put (h : (entries.map (·.1)).Nodup) :
    ((put entries name value).map (·.1)).Nodup := by
  by_cases hname : name ∈ entries.map (·.1)
  · rwa [map_fst_put_of_mem hname]
  · rw [put_of_notMem hname, List.map_append, List.nodup_append]
    refine ⟨h, by simp, fun n hn other hother => ?_⟩
    obtain rfl : other = name := by simpa using hother
    exact fun heq => hname (heq ▸ hn)

/-- Putting entries one after the other keeps names distinct. -/
theorem nodup_foldl_put (members : List (String × Value)) (h : (kept.map (·.1)).Nodup) :
    ((members.foldl (fun map entry => put map entry.1 entry.2) kept).map (·.1)).Nodup := by
  induction members generalizing kept with
  | nil => exact h
  | cons member rest ih => exact ih (nodup_put h)

/-- Entries with new names are put behind the others. -/
theorem foldl_put {members : List (String × Value)} (h : ((kept ++ members).map (·.1)).Nodup) :
    members.foldl (fun map entry => put map entry.1 entry.2) kept = kept ++ members := by
  induction members generalizing kept with
  | nil => exact (List.append_nil kept).symm
  | cons member rest ih =>
    have hnew : member.1 ∉ kept.map (·.1) := by
      rw [List.map_append, List.nodup_append] at h
      exact fun hn => h.2.2 _ hn _ List.mem_cons_self rfl
    have hassoc : kept ++ member :: rest = kept ++ [member] ++ rest := by simp
    rw [hassoc] at h
    rw [List.foldl_cons, put_of_notMem hnew, ih h, hassoc]

/-- The names of a map are distinct. -/
theorem nodup_ofList (members : List (String × Value)) :
    ((ofList members).map (·.1)).Nodup :=
  nodup_foldl_put members List.nodup_nil

/-- Members with distinct names are the entries of a map as they stand. -/
theorem ofList_eq_self {members : List (String × Value)} (h : (members.map (·.1)).Nodup) :
    ofList members = members :=
  @foldl_put [] members h

/-- A name that stands once has the value that stands with it. -/
theorem get?_of_mem (h : (entries.map (·.1)).Nodup) (hentry : (name, value) ∈ entries) :
    get? entries name = some value := by
  induction entries with
  | nil => contradiction
  | cons entry rest ih =>
    rw [List.map_cons, List.nodup_cons] at h
    rcases List.mem_cons.mp hentry with rfl | hrest
    · simp [get?]
    · have hother : entry.1 ≠ name := fun heq =>
        h.1 (List.mem_map.mpr ⟨_, hrest, heq.symm⟩)
      have hnext := ih h.2 hrest
      unfold get? at hnext ⊢
      rwa [List.find?_cons_of_neg (by simpa using hother)]

end Entries

/-- A member with a new name is put between the others. -/
theorem insertByName_perm {name : String} {value : Value} {sorted : List (String × Value)}
    (h : name ∉ sorted.map (·.1)) :
    (insertByName name value sorted).Perm ((name, value) :: sorted) := by
  induction sorted with
  | nil => exact List.Perm.refl _
  | cons entry rest ih =>
    obtain ⟨n, v⟩ := entry
    rw [List.map_cons, List.mem_cons, not_or] at h
    rw [insertByName]
    split
    · exact List.Perm.refl _
    · rw [if_neg (Ne.symm h.1)]
      exact ((ih h.2).cons (n, v)).trans (List.Perm.swap ..)

/-- Members with new names are put between the others. -/
theorem foldl_insertByName_perm {sorted members : List (String × Value)}
    (h : ((sorted ++ members).map (·.1)).Nodup) :
    (members.foldl (fun sorted member => insertByName member.1 member.2 sorted) sorted).Perm
      (sorted ++ members) := by
  induction members generalizing sorted with
  | nil => rw [List.append_nil, List.foldl_nil]
  | cons member rest ih =>
    have hnew : member.1 ∉ sorted.map (·.1) := by
      rw [List.map_append, List.nodup_append] at h
      exact fun hn => h.2.2 _ hn _ List.mem_cons_self rfl
    have hinserted : (insertByName member.1 member.2 sorted ++ rest).Perm
        (sorted ++ member :: rest) :=
      ((insertByName_perm hnew).append_right rest).trans List.perm_middle.symm
    have hnodup := (hinserted.map (·.1)).nodup_iff.mpr h
    exact (ih hnodup).trans hinserted

/-- Members with distinct names are ordered, and none is lost. -/
theorem sortByName_perm {members : List (String × Value)} (h : (members.map (·.1)).Nodup) :
    (sortByName members).Perm members :=
  @foldl_insertByName_perm [] members h

/-- The only member of an object names an element type. -/
def NamesElement (members : List (String × Value)) : Prop :=
  ∃ element, members = [("element", .text element)]

/-- The members of a typed collection with its items, in either order. -/
def Collects (members : List (String × Value)) (element : String) (items : List Value) : Prop :=
  members.Perm [("element", .text element), ("items", .list items)]

/-- The members of a typed collection stand in one of two orders. -/
theorem collects_iff (members : List (String × Value)) (element : String) (items : List Value) :
    Collects members element items ↔
      members = [("element", .text element), ("items", .list items)] ∨
        members = [("items", .list items), ("element", .text element)] := by
  constructor
  · intro h
    obtain ⟨a, b, rfl⟩ : ∃ a b, members = [a, b] := List.length_eq_two.mp h.length_eq
    have ha : a ∈ [("element", Value.text element), ("items", .list items)] :=
      h.subset List.mem_cons_self
    rcases List.mem_cons.mp ha with rfl | ha
    · left
      rw [List.perm_singleton.mp (List.Perm.cons_inv h)]
    · right
      obtain rfl := List.mem_singleton.mp ha
      rw [List.perm_singleton.mp (List.Perm.cons_inv (h.trans (List.Perm.swap ..)))]
  · rintro (rfl | rfl)
    · exact List.Perm.refl _
    · exact List.Perm.swap ..

/-- Members that form a typed collection stand for it. -/
theorem ofMembers_of_collects {members : List (String × Value)} {element : String}
    {items : List Value} (h : Collects members element items) :
    ofMembers members = .collection element items := by
  rcases (collects_iff members element items).mp h with rfl | rfl
  · rfl
  · rfl

/-- Any other members are the entries of a map. -/
theorem ofMembers_of_not_collects {members : List (String × Value)} (hone : ¬NamesElement members)
    (htwo : ∀ element items, ¬Collects members element items) :
    ofMembers members = .map (Entries.ofList members) := by
  unfold ofMembers
  split
  · exact absurd ⟨_, rfl⟩ hone
  · exact absurd (List.Perm.refl _) (htwo _ _)
  · exact absurd (List.Perm.swap ..) (htwo _ _)
  · rfl

end Contracts.Value
