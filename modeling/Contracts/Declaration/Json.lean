import Contracts.Declaration.Member
import Contracts.Declaration.TypeDecl
import Contracts.Json.Decode

/-!
# Declarations as documents

A declaration is a record, and records of declarations are strict: a field of another name is
refused. Attributes are read but never written.
-/

namespace Contracts

open Json (Decoder RecordField Record Variant)

/-- The variants of capabilities. -/
def Capability.variants : List (Variant Capability) := [
  .unit "ordered" .ordered,
  .unit "text" .text,
  .unit "countable" .countable,
  .content "collection_of" fun source json =>
    (Decoder.text source json).map Capability.collectionOf,
  .unit "error" .error,
  .unit "message_constructor" .messageConstructor]

/-- Decode a capability. -/
def Capability.decoder : Decoder Capability := Variant.decoder Capability.variants

/-- Write a capability. -/
def Capability.toJson : Capability → Json
  | .ordered => .text "ordered"
  | .text => .text "text"
  | .countable => .text "countable"
  | .collectionOf element => .object [("collection_of", .text element)]
  | .error => .text "error"
  | .messageConstructor => .text "message_constructor"

/-- The variants of shapes. -/
def TypeShape.variants : List (Variant TypeShape) := [
  .unit "reference" .reference,
  .unit "value" .value,
  .content "optional" fun source json => (Decoder.text source json).map TypeShape.optional,
  .content "capability" fun source json =>
    (Capability.decoder source json).map TypeShape.capability]

/-- Decode a shape. -/
def TypeShape.decoder : Decoder TypeShape := Variant.decoder TypeShape.variants

/-- Write a shape. -/
def TypeShape.toJson : TypeShape → Json
  | .reference => .text "reference"
  | .value => .text "value"
  | .optional inner => .object [("optional", .text inner)]
  | .capability c => .object [("capability", c.toJson)]

/-- The record of a type. -/
def TypeDecl.record : Record TypeDecl where
  title := "struct TypeDecl"
  blank := ⟨"", .reference, []⟩
  fields := [
    .of "name" true Decoder.text fun name d => { d with name },
    .of "shape" false TypeShape.decoder fun shape d => { d with shape },
    .of "capabilities" false (Decoder.list Capability.decoder) fun implemented d =>
      { d with implemented }]

/-- Decode a type. -/
def TypeDecl.decoder : Decoder TypeDecl := TypeDecl.record.decoder

/-- Write a type. -/
def TypeDecl.toJson (d : TypeDecl) : Json :=
  .object [("name", .text d.name), ("shape", d.shape.toJson),
    ("capabilities", .array (d.implemented.map Capability.toJson))]

variable {α : Type}

/-- The record of a parameter, given how attributes are decoded. -/
def ParameterDecl.record (item : Decoder (Attribute α)) : Record (ParameterDecl α) where
  title := "struct ParameterDecl"
  blank := ⟨"", "", []⟩
  fields := [
    .of "name" true Decoder.text fun name p => { p with name },
    .of "type" true Decoder.text fun type p => { p with type },
    .of "attributes" false (Decoder.list item) fun attributes p => { p with attributes }]

/-- Write a parameter without its attributes. -/
def ParameterDecl.toJson (p : ParameterDecl α) : Json :=
  .object [("name", .text p.name), ("type", .text p.type)]

/-- The record of a method, given how attributes are decoded. -/
def MethodDecl.record (item : Decoder (Attribute α)) : Record (MethodDecl α) where
  title := "struct MethodDecl"
  blank := ⟨"", "", [], []⟩
  fields := [
    .of "name" true Decoder.text fun name m => { m with name },
    .of "declaring_type" true Decoder.text fun declaringType m => { m with declaringType },
    .of "parameters" false (Decoder.list (ParameterDecl.record item).decoder)
      fun parameters m => { m with parameters },
    .of "attributes" false (Decoder.list item) fun attributes m => { m with attributes }]

/-- Write a method without attributes. -/
def MethodDecl.toJson (m : MethodDecl α) : Json :=
  .object [("name", .text m.name), ("declaring_type", .text m.declaringType),
    ("parameters", .array (m.parameters.map ParameterDecl.toJson))]

/-- The record of a property, given how attributes are decoded. -/
def PropertyDecl.record (item : Decoder (Attribute α)) : Record (PropertyDecl α) where
  title := "struct PropertyDecl"
  blank := ⟨"", "", "", true, []⟩
  fields := [
    .of "name" true Decoder.text fun name p => { p with name },
    .of "declaring_type" true Decoder.text fun declaringType p => { p with declaringType },
    .of "type" true Decoder.text fun type p => { p with type },
    .of "writable" false Decoder.bool fun writable p => { p with writable },
    .of "attributes" false (Decoder.list item) fun attributes p => { p with attributes }]

/-- Write a property without attributes. -/
def PropertyDecl.toJson (p : PropertyDecl α) : Json :=
  .object [("name", .text p.name), ("declaring_type", .text p.declaringType),
    ("type", .text p.type), ("writable", .bool p.writable)]

end Contracts
