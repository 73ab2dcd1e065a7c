import Contracts.Declaration.Json
import Contracts.Json.Reader
import Contracts.Manifest.Attribute
import Contracts.Weaving.Scan

/-!
# Manifests

A manifest lists the types, methods and properties of a module. Its types are declared on top of
the primitive ones, and every annotation in it becomes a validator of its own, numbered in the
order of the text.
-/

namespace Contracts

open Json (Decoder Decoded Record)

/-- What a manifest lists. -/
structure Manifest where
  types : List TypeDecl := []
  methods : List (MethodDecl Annotation) := []
  properties : List (PropertyDecl Annotation) := []

namespace Manifest

/-- The record of a manifest. -/
def record : Record Manifest where
  title := "struct Manifest"
  blank := {}
  fields := [
    .of "types" false (Decoder.list TypeDecl.decoder) fun types m => { m with types },
    .of "methods" false (Decoder.list (MethodDecl.record Attribute.decoder).decoder)
      fun methods m => { m with methods },
    .of "properties" false (Decoder.list (PropertyDecl.record Attribute.decoder).decoder)
      fun properties m => { m with properties }]

/-- Decode a manifest. -/
def decoder : Decoder Manifest := record.decoder

end Manifest

namespace Json

/-- Decode a text that holds one document. What follows the document is a fault of the text. -/
def decodeText {α : Type} (decoder : Decoder α) (text : String) : Decoded α := do
  let document := Document.ofText text
  let a ← decoder .stream document.root
  if document.surplus then .error .unreadable else return a

end Json

/-- Map a list with a running number that grows by the size of each item. -/
def numberAll {α β : Type} (size : α → Nat) (number : Nat → α → β) (start : Nat) :
    List α → List β
  | [] => []
  | a :: rest => number start a :: numberAll size number (start + size a) rest

variable {α : Type}

/-- How many validators an attribute is. -/
def Attribute.size (a : Attribute α) : Nat := if a.validator?.isSome then 1 else 0

/-- Replace validators by consecutive numbers. -/
def Attribute.number (start : Nat) : Attribute α → Attribute Nat
  | .validator _ => .validator start
  | .other name => .other name

/-- The validators of a parameter. -/
def ParameterDecl.validators (p : ParameterDecl α) : List α := Attribute.validators p.attributes

/-- Replace the validators of a parameter by consecutive numbers. -/
def ParameterDecl.number (start : Nat) (p : ParameterDecl α) : ParameterDecl Nat :=
  { name := p.name
    type := p.type
    attributes := numberAll Attribute.size Attribute.number start p.attributes }

/-- The validators of a method, those of its parameters first. -/
def MethodDecl.validators (m : MethodDecl α) : List α :=
  m.parameters.flatMap (·.validators) ++ Attribute.validators m.attributes

/-- Replace the validators of a method by consecutive numbers. -/
def MethodDecl.number (start : Nat) (m : MethodDecl α) : MethodDecl Nat :=
  { name := m.name
    declaringType := m.declaringType
    parameters := numberAll (·.validators.length) ParameterDecl.number start m.parameters
    attributes :=
      numberAll Attribute.size Attribute.number
        (start + (m.parameters.flatMap (·.validators)).length) m.attributes }

/-- The validators of a property. -/
def PropertyDecl.validators (p : PropertyDecl α) : List α := Attribute.validators p.attributes

/-- Replace the validators of a property by consecutive numbers. -/
def PropertyDecl.number (start : Nat) (p : PropertyDecl α) : PropertyDecl Nat :=
  { name := p.name
    declaringType := p.declaringType
    type := p.type
    writable := p.writable
    attributes := numberAll Attribute.size Attribute.number start p.attributes }

namespace Manifest

/-- The annotations of a manifest in the order of their numbers. -/
def annotations (m : Manifest) : List Annotation :=
  m.methods.flatMap (·.validators) ++ m.properties.flatMap (·.validators)

/-- The declarations of a manifest on top of the primitive types. -/
def declarations (m : Manifest) : Declarations where
  catalogue := { types := TypeTable.primitives.insertAll m.types }
  methods := numberAll (·.validators.length) MethodDecl.number 0 m.methods
  properties :=
    numberAll (·.validators.length) PropertyDecl.number
      (m.methods.flatMap (·.validators)).length m.properties

/-- The annotations of a manifest by their numbers. -/
def store (m : Manifest) : Store Annotation := Store.ofList m.annotations { rule := .notNull }

/-- Read a manifest from JSON text. -/
def ofJsonText (text : String) : Decoded Manifest := Json.decodeText decoder text

end Manifest

end Contracts
