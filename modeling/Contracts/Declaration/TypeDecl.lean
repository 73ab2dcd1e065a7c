/-!
# Type declarations

A declared type has a name, a shape, which says how its values are held, and capabilities, which
say what the rules may ask of its values. A shape may itself be a capability: then the type is
abstract and stands for any type that has the capability.
-/

namespace Contracts

/-- What the values of a type can do. -/
inductive Capability where
  /-- They have a natural order. -/
  | ordered
  /-- They are text. -/
  | text
  /-- They have a number of elements of an unknown type. -/
  | countable
  /-- They have a number of elements of a known type. -/
  | collectionOf (element : String)
  /-- They are errors. -/
  | error
  /-- They can be built from a message. -/
  | messageConstructor
  deriving DecidableEq

/-- The element type of a capability of collections. -/
def Capability.element? : Capability → Option String
  | .collectionOf element => some element
  | _ => none

/-- How the values of a type are held. -/
inductive TypeShape where
  /-- By a reference that may lead nowhere. -/
  | reference
  /-- By themselves, so that they are never absent. -/
  | value
  /-- Like the values of another type, or absent. -/
  | optional (inner : String)
  /-- In whatever way the capability is had; never absent. -/
  | capability (c : Capability)
  deriving DecidableEq

/-- A declared type. -/
structure TypeDecl where
  name : String
  shape : TypeShape := .reference
  /-- The capabilities besides the shape's own. -/
  implemented : List Capability := []
  deriving DecidableEq

namespace TypeDecl

/-- All capabilities, the shape's own first. -/
def capabilities (d : TypeDecl) : List Capability :=
  match d.shape with
  | .capability c => c :: d.implemented
  | _ => d.implemented

/-- Whether a type has a capability. -/
def has (d : TypeDecl) (c : Capability) : Bool := d.capabilities.contains c

/-- Whether values of a type may be absent. -/
def isNullable (d : TypeDecl) : Bool :=
  match d.shape with
  | .reference => true
  | .optional _ => true
  | _ => false

/-- The element type of a type of collections: the one that its shape stands for, or else that of
the first implemented capability of collections. -/
def elementType? (d : TypeDecl) : Option String :=
  match d.shape with
  | .capability (.collectionOf element) => some element
  | _ => d.implemented.findSome? Capability.element?

end TypeDecl

end Contracts
