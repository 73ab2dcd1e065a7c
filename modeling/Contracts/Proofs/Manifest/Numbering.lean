import Contracts.Manifest.Basic
import Mathlib

/-!
# The numbers of a manifest's annotations

The declarations of a manifest hold the numbers of its annotations in their order, each number
once: every part of a declaration is numbered from where the part before it ends.
-/

namespace Contracts

variable {α β : Type}

/-- If the numbers of each item start where the item is told to, the items together hold all numbers
from the start on. -/
theorem flatMap_numberAll (size : α → Nat) (number : Nat → α → β) (read : β → List Nat)
    (h : ∀ start a, read (number start a) = List.range' start (size a)) (start : Nat)
    (items : List α) :
    (numberAll size number start items).flatMap read =
      List.range' start (items.map size).sum := by
  induction items generalizing start with
  | nil => rfl
  | cons a rest ih =>
    rw [numberAll, List.flatMap_cons, h, ih, List.map_cons, List.sum_cons]
    exact List.range'_append_1

/-- What does not depend on the numbers is kept. -/
theorem map_numberAll {γ : Type} (size : α → Nat) (number : Nat → α → β) (read : β → γ)
    (kept : α → γ) (h : ∀ start a, read (number start a) = kept a) (start : Nat)
    (items : List α) :
    (numberAll size number start items).map read = items.map kept := by
  induction items generalizing start with
  | nil => rfl
  | cons a rest ih => simp [numberAll, h, ih]

namespace Attribute

/-- The size of attributes is the number of validators among them. -/
theorem sum_size (attributes : List (Attribute α)) :
    (attributes.map size).sum = (validators attributes).length := by
  induction attributes with
  | nil => rfl
  | cons a rest ih =>
    cases a with
    | validator v => simp [size, validators, validator?, ih, Nat.add_comm]
    | other name => exact (Nat.zero_add _).trans ih

/-- Numbered attributes hold consecutive numbers. -/
theorem validators_numberAll (start : Nat) (attributes : List (Attribute α)) :
    validators (numberAll size number start attributes) =
      List.range' start (validators attributes).length := by
  have hread : ∀ start (a : Attribute α),
      (number start a).validator?.toList = List.range' start a.size := by
    intro start a
    cases a <;> rfl
  rw [← sum_size, ← flatMap_numberAll size number (·.validator?.toList) hread, validators,
    List.filterMap_eq_flatMap_toList]

end Attribute

/-- A numbered parameter holds consecutive numbers. -/
theorem ParameterDecl.validators_number (start : Nat) (p : ParameterDecl α) :
    (p.number start).validators = List.range' start p.validators.length :=
  Attribute.validators_numberAll start p.attributes

/-- A numbered method holds consecutive numbers. -/
theorem MethodDecl.validators_number (start : Nat) (m : MethodDecl α) :
    (m.number start).validators = List.range' start m.validators.length := by
  have hparameters := flatMap_numberAll (·.validators.length) ParameterDecl.number
    (·.validators) ParameterDecl.validators_number start m.parameters
  simp only [validators, number, hparameters, Attribute.validators_numberAll, List.length_append,
    List.length_flatMap]
  exact List.range'_append_1

/-- A numbered property holds consecutive numbers. -/
theorem PropertyDecl.validators_number (start : Nat) (p : PropertyDecl α) :
    (p.number start).validators = List.range' start p.validators.length :=
  Attribute.validators_numberAll start p.attributes

namespace Declarations

/-- All validators of declarations, those on read-only properties included. -/
def validators (d : Declarations) : List Nat :=
  d.methods.flatMap (·.validators) ++ d.properties.flatMap (·.validators)

end Declarations

namespace Manifest

/-- The declarations of a manifest hold the number of each annotation once, in order. -/
theorem validators_declarations (m : Manifest) :
    m.declarations.validators = List.range m.annotations.length := by
  have hmethods := flatMap_numberAll (·.validators.length) MethodDecl.number (·.validators)
    MethodDecl.validators_number 0 m.methods
  have hproperties := flatMap_numberAll (·.validators.length) PropertyDecl.number (·.validators)
    PropertyDecl.validators_number (m.methods.flatMap (·.validators)).length m.properties
  rw [Declarations.validators, declarations, hmethods, hproperties, annotations,
    List.length_append, List.length_flatMap, List.length_flatMap, List.range_eq_range',
    ← List.range'_append_1, Nat.zero_add]

/-- The annotations of a manifest are instances of their own. -/
theorem nodup_validators_declarations (m : Manifest) : m.declarations.validators.Nodup := by
  rw [validators_declarations]
  exact List.nodup_range

end Manifest

end Contracts
