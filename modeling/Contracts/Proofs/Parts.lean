import Contracts.Json.Basic
import Contracts.Value.Basic

/-!
# Parts of values and documents

Values and documents are trees: what a list or a map holds are its children, and what can be
reached by going to children are the parts. What holds for a tree as soon as it holds for its
children holds for all trees, and a property holds everywhere in a tree if all parts have it.
-/

namespace Contracts

/-- A type of trees, whose children are smaller than they are. -/
class Nested (α : Type) [SizeOf α] where
  /-- What a tree holds directly. -/
  children : α → List α
  sizeOf_lt : ∀ {tree child : α}, child ∈ children tree → sizeOf child < sizeOf tree

/-- An entry is smaller than what holds a list of entries. -/
theorem sizeOf_lt_of_mem_map_snd {α : Type} [SizeOf α] {entries : List (String × α)} {child : α}
    (h : child ∈ entries.map (·.2)) : sizeOf child < sizeOf entries := by
  obtain ⟨⟨name, tree⟩, hentry, rfl⟩ := List.mem_map.mp h
  have hsmaller : sizeOf (name, tree) < sizeOf entries := List.sizeOf_lt_of_mem hentry
  simp only [Prod.mk.sizeOf_spec] at hsmaller
  change sizeOf tree < sizeOf entries
  omega

namespace Value

/-- What a list, a collection or a map holds. -/
@[reducible]
def children : Value → List Value
  | .list items => items
  | .collection _ items => items
  | .map entries => entries.map (·.2)
  | _ => []

/-- What a value holds is smaller than it. -/
theorem sizeOf_lt_of_mem_children {v child : Value} (h : child ∈ v.children) :
    sizeOf child < sizeOf v := by
  cases v with
  | list items =>
    have hsmaller : sizeOf child < sizeOf items := List.sizeOf_lt_of_mem h
    simp only [list.sizeOf_spec]
    omega
  | collection element items =>
    have hsmaller : sizeOf child < sizeOf items := List.sizeOf_lt_of_mem h
    simp only [collection.sizeOf_spec]
    omega
  | map entries =>
    have hsmaller : sizeOf child < sizeOf entries := sizeOf_lt_of_mem_map_snd h
    simp only [map.sizeOf_spec]
    omega
  | _ => contradiction

instance : Nested Value := ⟨children, sizeOf_lt_of_mem_children⟩

end Value

namespace Json

/-- What an array or an object holds. Nothing is reached through a container that the text does not
close. -/
@[reducible]
def children : Json → List Json
  | .array items => items
  | .object members => members.map (·.2)
  | _ => []

/-- What a document holds is smaller than it. -/
theorem sizeOf_lt_of_mem_children {json child : Json} (h : child ∈ json.children) :
    sizeOf child < sizeOf json := by
  cases json with
  | array items =>
    have hsmaller : sizeOf child < sizeOf items := List.sizeOf_lt_of_mem h
    simp only [array.sizeOf_spec]
    omega
  | object members =>
    have hsmaller : sizeOf child < sizeOf members := sizeOf_lt_of_mem_map_snd h
    simp only [object.sizeOf_spec]
    omega
  | _ => contradiction

instance : Nested Json := ⟨children, sizeOf_lt_of_mem_children⟩

end Json

section Nested

variable {α : Type} [SizeOf α] [Nested α]

/-- What holds for a tree as soon as it holds for its children holds for all trees. -/
@[elab_as_elim]
theorem induction_children {motive : α → Prop}
    (step : ∀ tree, (∀ child ∈ Nested.children tree, motive child) → motive tree) (tree : α) :
    motive tree :=
  step tree fun child _ => induction_children step child
termination_by sizeOf tree
decreasing_by exact Nested.sizeOf_lt ‹_›

/-- A tree is a part of itself, and the parts of its children are parts of it. -/
inductive IsPartOf (part : α) : α → Prop where
  | self : IsPartOf part part
  | inner {child tree : α} (hchild : child ∈ Nested.children tree) (hpart : IsPartOf part child) :
    IsPartOf part tree

/-- All parts of a tree have a property. -/
def Everywhere (P : α → Prop) (tree : α) : Prop := ∀ part, IsPartOf part tree → P part

variable {P Q : α → Prop}

/-- A property holds everywhere in a tree if it holds for the tree and everywhere in its
children. -/
theorem everywhere_iff {tree : α} :
    Everywhere P tree ↔ P tree ∧ ∀ child ∈ Nested.children tree, Everywhere P child := by
  constructor
  · intro h
    exact ⟨h tree .self, fun child hchild part hpart => h part (.inner hchild hpart)⟩
  · rintro ⟨hself, hchildren⟩ part hpart
    cases hpart with
    | self => exact hself
    | inner hchild hinner => exact hchildren _ hchild part hinner

/-- Two properties hold everywhere if each of them does. -/
theorem everywhere_and {tree : α} :
    Everywhere (fun part => P part ∧ Q part) tree ↔ Everywhere P tree ∧ Everywhere Q tree :=
  ⟨fun h => ⟨fun part hpart => (h part hpart).1, fun part hpart => (h part hpart).2⟩,
    fun h part hpart => ⟨h.1 part hpart, h.2 part hpart⟩⟩

end Nested

namespace Json

variable {P : Json → Prop}

/-- A property holds everywhere in what holds nothing if it holds for it. -/
theorem everywhere_leaf {json : Json} (h : json.children = []) : Everywhere P json ↔ P json := by
  rw [everywhere_iff, show Nested.children json = [] from h]
  exact and_iff_left nofun

/-- A property holds everywhere in an array if it holds for the array and everywhere in its
items. -/
theorem everywhere_array {items : List Json} :
    Everywhere P (array items) ↔ P (array items) ∧ ∀ item ∈ items, Everywhere P item :=
  everywhere_iff

/-- A property holds everywhere in an object if it holds for the object and everywhere in its
members. -/
theorem everywhere_object {members : List (String × Json)} :
    Everywhere P (object members) ↔
      P (object members) ∧ ∀ member ∈ members, Everywhere P member.2 := by
  rw [everywhere_iff]
  exact and_congr_right' List.forall_mem_map

end Json

end Contracts
