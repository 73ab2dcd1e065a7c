import Contracts.Declaration.TypeTable
import Contracts.Failure.Policy

/-!
# Catalogues

A catalogue answers what the rules ask of types: it holds the declared types and the
constructors that were registered for custom error types. A capability of an optional type may be
its own or that of the type at the end of its chain of optional types, if that end is near enough.
-/

namespace Contracts

/-- Declared types and registered error constructors. -/
structure Catalogue where
  types : TypeTable
  /-- The registered constructors, last one first. -/
  constructors : List ErrorConstructor := []

namespace Catalogue

/-- The declaration of a type. -/
def decl? (c : Catalogue) (type : String) : Option TypeDecl := c.types.find? type

/-- Declare a type. -/
def declare (c : Catalogue) (d : TypeDecl) : Catalogue := { c with types := c.types.insert d }

/-- Register the constructor of an error type. -/
def register (c : Catalogue) (constructor : ErrorConstructor) : Catalogue :=
  { c with constructors := constructor :: c.constructors }

/-- How many declarations of a chain of optional types are looked at. -/
def chainLimit : Nat := 16

/-- Follow a chain of optional types from a declaration, looking at a number of declarations. -/
def follow (c : Catalogue) : Nat → TypeDecl → Option TypeDecl
  | 0, _ => none
  | n + 1, d =>
    match d.shape with
    | .optional inner =>
      match c.decl? inner with
      | some e => c.follow n e
      | none => none
    | _ => some d

/-- The type at the end of a chain of optional types. -/
def underlying (c : Catalogue) (type : String) : Option TypeDecl :=
  match c.decl? type with
  | some d => c.follow chainLimit d
  | none => none

/-- Whether a type, or the type that it wraps, has a capability. -/
def hasCapability (c : Catalogue) (type : String) (capability : Capability) : Bool :=
  (c.decl? type).any (·.has capability) || (c.underlying type).any (·.has capability)

/-- Whether values of a type may be absent. -/
def isNullable (c : Catalogue) (type : String) : Bool := (c.decl? type).any (·.isNullable)

/-- The element type of a typed collection, or of one that is wrapped. -/
def elementTypeOf (c : Catalogue) (type : String) : Option String :=
  (c.underlying type).bind (·.elementType?)

/-- Whether a type is declared as an error type. -/
def isErrorType (c : Catalogue) (type : String) : Bool := (c.decl? type).any (·.has .error)

/-- The constructor of an error type: the one registered last, or else the generic one if the
type is an error type that can be built from a message. -/
def errorConstructor? (c : Catalogue) (type : String) : Option ErrorConstructor :=
  match c.constructors.find? (·.typeName == type) with
  | some constructor => some constructor
  | none =>
    match c.decl? type with
    | some d => if d.has .error && d.has .messageConstructor then some (.host type) else none
    | none => none

end Catalogue

end Contracts
